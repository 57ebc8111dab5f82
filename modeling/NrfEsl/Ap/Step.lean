import NrfEsl.Lib.TransitionSystem
import NrfEsl.Ap.State

/-!
# Events of the access point

`Ap.step` lets the parties that touch the sync buffers take turns in every order.  A function
that may be preempted is several events, one for each write that another party can see:

* `esl_c_push_sync_buf` — test the status, set it, compose into `data`, assign `data_len` and
  return 0.  The status is set **before** the data is there.
* `esl_c_push_sync_to_controller` — one event for each group of the requested window, then the
  call into the controller, which may refuse.
* `esl_ap_ping_work_fn` — for each group clear the status, compose, assign `data_len` and set the
  status.

A response that does not fit its slot is undefined behaviour; the event then carries whatever
state memory is left in (`wreck`).
-/

namespace NrfEsl

/-- What can happen to the sync buffers. -/
inductive ApEvent
  /-- A thread calls `esl_c_push_sync_buf`, which returns `-EBUSY` or goes on. -/
  | pushSyncBuf (caller : ℕ) (data : List UInt8) (groupId : ℕ)
  | pushClaim (caller : ℕ)
  | pushCompose (caller : ℕ) (rnd : Randomness)
  | pushReturn (caller : ℕ)
  /-- The controller asks for the data of some subevents. -/
  | pawrRequest (request : DataRequest)
  | fillBufWork
  /-- The loop of the fill work makes one turn. -/
  | fillBufTurn
  /-- The end of the fill work: `bt_le_per_adv_set_subevent_data` accepts the packets or not. -/
  | setSubeventData (accepted : Bool)
  | pawrResponse (info : ResponseInfo) (buf : NetBuf) (wreck : Ap)
  | respFillBufWork (stack : Mem) (wreck : Ap)
  | dumpRespBuf (groupId : ℕ)
  | pingWork
  | pingClear
  | pingCompose (rnd : Randomness)
  | pingReady

namespace Ap

variable (cfg : ApConfig) (ead : Ead)

/-! ## esl_c_push_sync_buf -/

/-- The test at the start; any other status is `-EBUSY`. -/
def pushSyncBuf (c : ℕ) (data : List UInt8) (g : ℕ) (s : Ap) : Ap :=
  if (s.syncBuf g).status = .empty ∨ (s.syncBuf g).status = .pushed then
    s.setCaller c (some ⟨data, g, .checked⟩)
  else s

def pushClaim (c : ℕ) (p : Push) (s : Ap) : Ap :=
  (s.updateGroup p.groupId fun b => { b with status := .readyToPush }).setCaller c
    (some { p with stage := .claimed })

def pushCompose (c : ℕ) (p : Push) (rnd : Randomness) (s : Ap) : Ap :=
  let outLen := (eslComposeAdData ead rnd (s.syncBuf p.groupId).data p.data s.eslApKey).2
  (s.updateGroup p.groupId (·.compose ead rnd s.eslApKey p.data)).setCaller c
    (some { p with stage := .composed outLen })

/-- Assign `data_len`, submit the fill work and return 0: from here on the payload is owed. -/
def pushReturn (c : ℕ) (p : Push) (outLen : UInt8) (s : Ap) : Ap :=
  let s := (s.updateGroup p.groupId fun b => { b with dataLen := outLen }).setCaller c none
  { s with
    fillBufPending := true
    owed := Function.update s.owed p.groupId (p.data :: s.owed p.groupId) }

/-! ## esl_c_push_sync_to_controller -/

/-- One turn of the loop: take the packet of a group that is ready. -/
def fillBufTurn (w : PushToController) (s : Ap) : Ap :=
  let g := currentSubevent cfg w
  let b := s.syncBuf g
  if b.status ≠ .readyToPush then { s with fillBuf := some { w with i := w.i + 1 } }
  else
    { s.updateGroup g fun b => { b with status := .pushed } with
      fillBuf := some { w with i := w.i + 1, params := w.params ++ [(g, b.packet)] } }

/-- The controller has accepted the packets: the payloads they carry are owed no longer. -/
def discharge (params : List (ℕ × List UInt8)) (s : Ap) : Ap :=
  { s with owed := fun g => (s.owed g).filter fun payload =>
      !params.any fun x => x.1 == g && decide (IsPacketOf ead s.eslApKey payload x.2) }

/-- The controller has refused: the groups whose packets it was given are ready again. -/
def restore (params : List (ℕ × List UInt8)) (s : Ap) : Ap :=
  { s with syncBuf := fun g =>
      if g ∈ params.map Prod.fst then { s.syncBuf g with status := .readyToPush }
      else s.syncBuf g }

def setSubeventData (w : PushToController) (accepted : Bool) (s : Ap) : Ap :=
  let s := { s with fillBuf := none }
  if accepted then s.discharge ead w.params else s.restore w.params

/-! ## Responses -/

/-- `pawr_response` -/
def pawrResponse (info : ResponseInfo) (buf : NetBuf) (s : Ap) : Traced Ap := do
  if buf.len = 0 then pure s
  else
    Traced.access (.index cfg.maxGroup info.subevent.toNat)
    let b ← (s.syncBuf info.subevent.toNat).storeResponse cfg info.responseSlot buf
    pure { s.updateGroup info.subevent.toNat fun _ => b with respInfo := info, respPending := true }

/-- `esl_ap_resp_fill_buf_work_fn` -/
def respFillBufWorkFn (stack : Mem) (s : Ap) : Traced Ap := do
  let s := { s with respPending := false }
  let g := s.respInfo.subevent.toNat
  Traced.access (.index cfg.maxGroup g)
  let b ← (s.syncBuf g).respFillBufWorkFn cfg ead stack s.respInfo.responseSlot
  pure (s.updateGroup g fun _ => b)

/-- What is left after `x`: its result, or `wreck` if it went out of bounds.  Nothing the program
does changes what it owes. -/
def orWreck (x : Traced Ap) (wreck s : Ap) : Ap :=
  if x.Safe then x.val else { wreck with owed := s.owed }

lemma orWreck_of_safe {x : Traced Ap} (h : x.Safe) (wreck s : Ap) : orWreck x wreck s = x.val :=
  if_pos h

/-- Taking up a response changes its group and nothing else. -/
lemma val_respFillBufWorkFn (stack : Mem) (s : Ap) :
    (s.respFillBufWorkFn cfg ead stack).val
      = { s with respPending := false }.updateGroup s.respInfo.subevent.toNat fun _ =>
          ((s.syncBuf s.respInfo.subevent.toNat).respFillBufWorkFn cfg ead stack
            s.respInfo.responseSlot).val := rfl

/-! ## The ping worker -/

/-- The broadcast Ping of `esl_dummy_ap_ad_data` for type 0. -/
def dummyPing (g : ℕ) : List UInt8 := [UInt8.ofNat g, EslOpCode.ping.toByte, eslAddrBroadcast]

def pingClear (idx : ℕ) (s : Ap) : Ap :=
  { s.updateGroup idx fun b => { b with status := .empty } with ping := some ⟨idx, .compose⟩ }

def pingCompose (idx : ℕ) (rnd : Randomness) (s : Ap) : Ap :=
  let outLen := (eslComposeAdData ead rnd (s.syncBuf idx).data (dummyPing idx) s.eslApKey).2
  { s.updateGroup idx (·.compose ead rnd s.eslApKey (dummyPing idx)) with
    ping := some ⟨idx, .ready outLen⟩ }

/-- The end of a group's turn; the pass ends with the last group. -/
def pingReady (idx : ℕ) (outLen : UInt8) (s : Ap) : Ap :=
  { s.updateGroup idx fun b => { b with dataLen := outLen, status := .readyToPush } with
    ping := if idx + 1 < cfg.maxGroup then some ⟨idx + 1, .clear⟩ else none }

/-! ## One event -/

/-- What a push may be called with.  A payload starts with its group ID, so it is not empty, and
the packet of one longer than 48 bytes does not fit in the buffer. -/
def PushArgs (data : List UInt8) (g : ℕ) : Prop :=
  data ≠ [] ∧ data.length ≤ eslSyncPktPayloadMaxLen ∧ g < cfg.maxGroup

instance (data : List UInt8) (g : ℕ) : Decidable (PushArgs cfg data g) :=
  inferInstanceAs (Decidable (_ ∧ _))

/-- One event. -/
def step (s : Ap) : ApEvent → Option Ap
  | .pushSyncBuf c data g =>
      if s.callers c = none ∧ PushArgs cfg data g then some (s.pushSyncBuf c data g) else none
  | .pushClaim c =>
      match s.callers c with
      | some ⟨data, g, .checked⟩ => some (s.pushClaim c ⟨data, g, .checked⟩)
      | _ => none
  | .pushCompose c rnd =>
      match s.callers c with
      | some ⟨data, g, .claimed⟩ => some (s.pushCompose ead c ⟨data, g, .claimed⟩ rnd)
      | _ => none
  | .pushReturn c =>
      match s.callers c with
      | some ⟨data, g, .composed outLen⟩ =>
          some (s.pushReturn c ⟨data, g, .composed outLen⟩ outLen)
      | _ => none
  | .pawrRequest request => some { s with fillBufInfo := request, fillBufPending := true }
  | .fillBufWork =>
      if s.fillBufPending = true ∧ s.fillBuf = none then
        some { s with fillBufPending := false, fillBuf := some ⟨s.fillBufInfo, 0, []⟩ }
      else none
  | .fillBufTurn =>
      match s.fillBuf with
      | some w => if w.i < w.request.count.toNat then some (s.fillBufTurn cfg w) else none
      | none => none
  | .setSubeventData accepted =>
      match s.fillBuf with
      | some w =>
          if w.i < w.request.count.toNat then none else some (s.setSubeventData ead w accepted)
      | none => none
  | .pawrResponse info buf wreck => some (orWreck (s.pawrResponse cfg info buf) wreck s)
  | .respFillBufWork stack wreck =>
      if s.respPending then some (orWreck (s.respFillBufWorkFn cfg ead stack) wreck s) else none
  | .dumpRespBuf g =>
      if g < cfg.maxGroup then some (s.updateGroup g (·.dumpRespBuf cfg)) else none
  | .pingWork => if s.ping = none then some { s with ping := some ⟨0, .clear⟩ } else none
  | .pingClear =>
      match s.ping with
      | some ⟨idx, .clear⟩ => some (s.pingClear idx)
      | _ => none
  | .pingCompose rnd =>
      match s.ping with
      | some ⟨idx, .compose⟩ => some (s.pingCompose ead idx rnd)
      | _ => none
  | .pingReady =>
      match s.ping with
      | some ⟨idx, .ready outLen⟩ => some (s.pingReady cfg idx outLen)
      | _ => none

/-! ## What makes a step possible -/

variable {cfg : ApConfig} {ead : Ead} {s s' : Ap}

lemma step_pushSyncBuf_eq_some {c : ℕ} {data : List UInt8} {g : ℕ} :
    s.step cfg ead (.pushSyncBuf c data g) = some s'
      ↔ (s.callers c = none ∧ PushArgs cfg data g) ∧ s.pushSyncBuf c data g = s' := by
  rw [step, Option.ite_none_right_eq_some, Option.some_inj]

lemma step_pushClaim_eq_some {c : ℕ} : s.step cfg ead (.pushClaim c) = some s'
    ↔ ∃ data g, s.callers c = some ⟨data, g, .checked⟩
      ∧ s.pushClaim c ⟨data, g, .checked⟩ = s' := by
  rw [step]
  constructor
  · intro h
    split at h
    case h_1 data g hc => exact ⟨data, g, hc, Option.some.inj h⟩
    case h_2 => cases h
  · rintro ⟨data, g, hc, rfl⟩
    rw [hc]

lemma step_pushCompose_eq_some {c : ℕ} {rnd : Randomness} :
    s.step cfg ead (.pushCompose c rnd) = some s'
      ↔ ∃ data g, s.callers c = some ⟨data, g, .claimed⟩
        ∧ s.pushCompose ead c ⟨data, g, .claimed⟩ rnd = s' := by
  rw [step]
  constructor
  · intro h
    split at h
    case h_1 data g hc => exact ⟨data, g, hc, Option.some.inj h⟩
    case h_2 => cases h
  · rintro ⟨data, g, hc, rfl⟩
    rw [hc]

lemma step_pushReturn_eq_some {c : ℕ} : s.step cfg ead (.pushReturn c) = some s'
    ↔ ∃ data g outLen, s.callers c = some ⟨data, g, .composed outLen⟩
      ∧ s.pushReturn c ⟨data, g, .composed outLen⟩ outLen = s' := by
  rw [step]
  constructor
  · intro h
    split at h
    case h_1 data g outLen hc => exact ⟨data, g, outLen, hc, Option.some.inj h⟩
    case h_2 => cases h
  · rintro ⟨data, g, outLen, hc, rfl⟩
    rw [hc]

lemma step_fillBufWork_eq_some : s.step cfg ead .fillBufWork = some s'
    ↔ (s.fillBufPending = true ∧ s.fillBuf = none)
      ∧ { s with fillBufPending := false, fillBuf := some ⟨s.fillBufInfo, 0, []⟩ } = s' := by
  rw [step, Option.ite_none_right_eq_some, Option.some_inj]

lemma step_fillBufTurn_eq_some : s.step cfg ead .fillBufTurn = some s'
    ↔ ∃ w, s.fillBuf = some w ∧ w.i < w.request.count.toNat ∧ s.fillBufTurn cfg w = s' := by
  rw [step]
  constructor
  · intro h
    split at h
    case h_1 w hw =>
      rw [Option.ite_none_right_eq_some, Option.some_inj] at h
      exact ⟨w, hw, h⟩
    case h_2 => cases h
  · rintro ⟨w, hw, hlt, rfl⟩
    rw [hw]
    exact if_pos hlt

lemma step_setSubeventData_eq_some {accepted : Bool} :
    s.step cfg ead (.setSubeventData accepted) = some s'
      ↔ ∃ w, s.fillBuf = some w ∧ ¬ w.i < w.request.count.toNat
        ∧ s.setSubeventData ead w accepted = s' := by
  rw [step]
  constructor
  · intro h
    split at h
    case h_1 w hw =>
      rw [Option.ite_none_left_eq_some, Option.some_inj] at h
      exact ⟨w, hw, h⟩
    case h_2 => cases h
  · rintro ⟨w, hw, hge, rfl⟩
    rw [hw]
    exact if_neg hge

lemma step_respFillBufWork_eq_some {stack : Mem} {wreck : Ap} :
    s.step cfg ead (.respFillBufWork stack wreck) = some s'
      ↔ s.respPending = true ∧ orWreck (s.respFillBufWorkFn cfg ead stack) wreck s = s' := by
  rw [step, Option.ite_none_right_eq_some, Option.some_inj]

lemma step_dumpRespBuf_eq_some {g : ℕ} : s.step cfg ead (.dumpRespBuf g) = some s'
    ↔ g < cfg.maxGroup ∧ s.updateGroup g (·.dumpRespBuf cfg) = s' := by
  rw [step, Option.ite_none_right_eq_some, Option.some_inj]

lemma step_pingWork_eq_some : s.step cfg ead .pingWork = some s'
    ↔ s.ping = none ∧ { s with ping := some ⟨0, .clear⟩ } = s' := by
  rw [step, Option.ite_none_right_eq_some, Option.some_inj]

lemma step_pingClear_eq_some : s.step cfg ead .pingClear = some s'
    ↔ ∃ idx, s.ping = some ⟨idx, .clear⟩ ∧ s.pingClear idx = s' := by
  rw [step]
  constructor
  · intro h
    split at h
    case h_1 idx hp => exact ⟨idx, hp, Option.some.inj h⟩
    case h_2 => cases h
  · rintro ⟨idx, hp, rfl⟩
    rw [hp]

lemma step_pingCompose_eq_some {rnd : Randomness} : s.step cfg ead (.pingCompose rnd) = some s'
    ↔ ∃ idx, s.ping = some ⟨idx, .compose⟩ ∧ s.pingCompose ead idx rnd = s' := by
  rw [step]
  constructor
  · intro h
    split at h
    case h_1 idx hp => exact ⟨idx, hp, Option.some.inj h⟩
    case h_2 => cases h
  · rintro ⟨idx, hp, rfl⟩
    rw [hp]

lemma step_pingReady_eq_some : s.step cfg ead .pingReady = some s'
    ↔ ∃ idx outLen, s.ping = some ⟨idx, .ready outLen⟩ ∧ s.pingReady cfg idx outLen = s' := by
  rw [step]
  constructor
  · intro h
    split at h
    case h_1 idx outLen hp => exact ⟨idx, outLen, hp, Option.some.inj h⟩
    case h_2 => cases h
  · rintro ⟨idx, outLen, hp, rfl⟩
    rw [hp]

end Ap

end NrfEsl
