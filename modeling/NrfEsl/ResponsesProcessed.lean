import NrfEsl.ReceivedData

/-!
# Every response is processed

`pawr_response` copies a response to its slot, notes group and slot in one record and submits one
work item; `esl_ap_resp_fill_buf_work_fn` decrypts the slot that the record names.  A subevent
brings a response for every slot, but there is a single record, and an item that is queued is not
queued again.

**What should hold.**  Every response received is taken up once, under the key of its slot, and
stored there.  `ResponseHistory` records what was received, and what each run of the work found in
its slot and left there.

**When it does** (`allProcessed_of_inTurn`).  A response has to find the work idle and a slot it
fits in.  One that comes while another waits leaves that one unprocessed for good
(`not_allProcessed_of_queued`).
-/

namespace NrfEsl

open TransitionSystem

/-! ## Specification -/

/-- A response as the controller delivers it. -/
structure SlotResponse where
  info : ResponseInfo
  bytes : List UInt8
  deriving DecidableEq, Repr

/-- One run of the response work: what it found in its slot, and what it left there. -/
structure Processing where
  response : SlotResponse
  stored : List UInt8
  deriving DecidableEq, Repr

/-- The responses received so far, and the runs of the response work. -/
structure ResponseHistory where
  received : List SlotResponse := []
  processed : List Processing := []

/-- The buffer of a response slot. -/
def Ap.slot (s : Ap) (info : ResponseInfo) : RspBuffer :=
  (s.syncBuf info.subevent.toNat).rspBuffer info.responseSlot.toNat

/-- The history after one more event. -/
def responseHistoryAfter (s : Ap) (e : ApEvent) (s' : Ap) (h : ResponseHistory) :
    ResponseHistory :=
  match e with
  | .pawrResponse info buf _ =>
      if buf.len = 0 then h else { h with received := h.received ++ [⟨info, buf.bytes⟩] }
  | .respFillBufWork _ _ =>
      { h with processed := h.processed ++
          [⟨⟨s.respInfo, (s.slot s.respInfo).bytes⟩, (s'.slot s.respInfo).bytes⟩] }
  | _ => h

/-- The access point, with its history. -/
def stepResponses (cfg : ApConfig) (ead : Ead) :
    Ap × ResponseHistory → ApEvent → Option (Ap × ResponseHistory) :=
  withHistory responseHistoryAfter (Ap.step cfg ead)

/-- A response decrypted under `key`.  What is no encrypted data or does not authenticate stays as
it is. -/
def decryptResponse (ead : Ead) (key : KeyMaterial) (bytes : List UInt8) : List UInt8 :=
  if bytes = encryptedAd (bytes.drop adHeaderLen) then
    (ead.decrypt key.sessionKey key.iv (bytes.drop adHeaderLen)).getD bytes
  else bytes

/-- What is to be done with a response, under the key that `s` has for its slot. -/
def SlotResponse.processing (ead : Ead) (s : Ap) (r : SlotResponse) : Processing :=
  ⟨r, decryptResponse ead (s.slot r.info).rspKey r.bytes⟩

/-- Every response has been processed, in the order they came; if the work is queued, all but the
last, which waits in its slot for that run. -/
structure AllProcessed (ead : Ead) (s₀ : Ap) (x : Ap × ResponseHistory) : Prop where
  idle : x.1.respPending = false → x.2.processed = x.2.received.map (·.processing ead s₀)
  queued : x.1.respPending = true → ∃ earlier r, x.2.received = earlier ++ [r]
    ∧ x.2.processed = earlier.map (·.processing ead s₀)
    ∧ x.1.respInfo = r.info ∧ (x.1.slot r.info).bytes = r.bytes

/-- A response the buffers can take. -/
def Ap.FitsSlot (cfg : ApConfig) (s : Ap) (info : ResponseInfo) (buf : NetBuf) : Prop :=
  info.subevent.toNat < cfg.maxGroup ∧ info.responseSlot.toNat < cfg.maxResponseSlotBuffer
    ∧ buf.len ≤ eslEncryptedDataMaxLen ∧ ((s.slot info).HeaderPasses buf → 11 ≤ buf.len)

/-- A response finds the work idle and a slot it fits in; nobody clears the group of one that
waits. -/
def InTurn (cfg : ApConfig) (x : Ap × ResponseHistory) (e : ApEvent) : Prop :=
  match e with
  | .pawrResponse info buf _ =>
      buf.len ≠ 0 → x.1.respPending = false ∧ x.1.FitsSlot cfg info buf
  | .dumpRespBuf g => x.1.respPending = true → x.1.respInfo.subevent.toNat ≠ g
  | _ => True

/-! ## One run of the work -/

namespace RspBuffer

variable {ead : Ead} {r : RspBuffer}

lemma bytes_eq_cons (h : 2 ≤ r.rspLen.toNat) :
    r.bytes = [r.data 0, r.data 1] ++ r.data.read 2 (r.rspLen.toNat - 2) := by
  obtain ⟨n, hn⟩ : ∃ n, r.rspLen.toNat = 2 + n := ⟨r.rspLen.toNat - 2, by omega⟩
  rw [bytes, hn, Mem.read_add, Nat.add_sub_cancel_left]
  rfl

/-- The header check, on the bytes in the slot. -/
lemma legitEad_iff (h : 2 ≤ r.rspLen.toNat) :
    r.LegitEad ↔ r.bytes = encryptedAd (r.bytes.drop adHeaderLen) := by
  have hlen := r.rspLen.toNat_lt
  have h₀ : r.rspLen.toNat = (r.data 0).toNat + 1
      ↔ r.data 0 = UInt8.ofNat (r.rspLen.toNat - 2 + 1) := by
    rw [← UInt8.toNat_inj, UInt8.toNat_ofNat']
    omega
  rw [LegitEad, h₀, bytes_eq_cons h, show adHeaderLen = [r.data 0, r.data 1].length from rfl,
    List.drop_left, encryptedAd, Mem.length_read]
  simp

/-- **The work decrypts what it finds**, under the key of the slot. -/
lemma bytes_takeUp (hl : ead.Lawful) (stack : Mem) (responseSlot : UInt8)
    (hmin : r.LegitEad → 11 ≤ r.rspLen.toNat) :
    (r.takeUp ead stack responseSlot).val.bytes = decryptResponse ead r.rspKey r.bytes := by
  have hlen := r.rspLen.toNat_lt
  by_cases hlegit : r.LegitEad
  · have h11 := hmin hlegit
    have hlegit' : { r with rspSlot := responseSlot }.LegitEad := hlegit
    have hcons := bytes_eq_cons (r := r) (by omega)
    have hdrop : ((NetBuf.mk r.data r.rspLen.toNat).pull adHeaderLen).bytes
        = r.bytes.drop adHeaderLen := by
      have hpull := NetBuf.bytes_pull (b := ⟨r.data, r.rspLen.toNat⟩) [r.data 0, r.data 1] hcons
        (by dsimp only; omega)
      rw [show adHeaderLen = [r.data 0, r.data 1].length from rfl, hpull, hcons, List.drop_left]
    rw [decryptResponse, if_pos ((legitEad_iff (by omega)).mp hlegit)]
    simp only [takeUp, if_pos hlegit', decrypt, hdrop, Traced.val_bind]
    cases hdec : ead.decrypt r.rspKey.sessionKey r.rspKey.iv (r.bytes.drop adHeaderLen) with
    | none => rfl
    | some p =>
        have hp := hl.length_decrypt hdec
        have hbytes : r.bytes.length = r.rspLen.toNat := Mem.length_read _ _ _
        rw [List.length_drop, hbytes, show adHeaderLen = 2 from rfl] at hp
        have hpayloadLen : (2 ^ 32 + r.rspLen.toNat - 11) % 2 ^ 32 = p.length := by omega
        have hstored : (UInt8.ofNat p.length).toNat = p.length := by
          rw [UInt8.toNat_ofNat']
          omega
        simp only [Traced.val_bind, Traced.val_pure, bytes, hpayloadLen, Mem.read_write, hstored,
          Option.getD_some]
  · have hlegit' : ¬ { r with rspSlot := responseSlot }.LegitEad := hlegit
    have hne : r.bytes ≠ encryptedAd (r.bytes.drop adHeaderLen) := by
      intro heq
      have hlong := congrArg List.length heq
      rw [length_encryptedAd, bytes, Mem.length_read] at hlong
      exact hlegit ((legitEad_iff (by omega)).mpr heq)
    rw [decryptResponse, if_neg hne]
    simp only [takeUp, if_neg hlegit', Traced.val_pure]
    rfl

@[simp] lemma rspKey_takeUp (stack : Mem) (responseSlot : UInt8) :
    (r.takeUp ead stack responseSlot).val.rspKey = r.rspKey := by
  simp only [takeUp]
  split
  · simp only [decrypt, Traced.val_bind]
    split <;> rfl
  · rfl

end RspBuffer

/-! ## What the events do to the slots -/

namespace Ap

variable {cfg : ApConfig} {ead : Ead} {s s' : Ap} {e : ApEvent}

/-- Neither the slots nor the record of the work change. -/
structure SameResponses (s s' : Ap) : Prop where
  slot : ∀ info, s'.slot info = s.slot info
  respInfo : s'.respInfo = s.respInfo
  respPending : s'.respPending = s.respPending

/-- What keeps the slots of one group leaves all alone. -/
lemma SameResponses.of_update {g : ℕ} {b : SyncBuffer}
    (hs : s'.syncBuf = Function.update s.syncBuf g b)
    (hb : b.rspBuffer = (s.syncBuf g).rspBuffer) (hinfo : s'.respInfo = s.respInfo)
    (hpending : s'.respPending = s.respPending) : SameResponses s s' := by
  refine ⟨fun info => ?_, hinfo, hpending⟩
  by_cases h : info.subevent.toNat = g
  · rw [Ap.slot, Ap.slot, hs, h, Function.update_self, hb]
  · rw [Ap.slot, Ap.slot, hs, Function.update_of_ne h]

/-- A group that is dumped loses the lengths of its responses; the keys stay. -/
lemma slot_dumpRespBuf (cfg : ApConfig) (s : Ap) (g : ℕ) (info : ResponseInfo) :
    ((s.updateGroup g (·.dumpRespBuf cfg)).slot info).rspKey = (s.slot info).rspKey
      ∧ (info.subevent.toNat ≠ g →
          (s.updateGroup g (·.dumpRespBuf cfg)).slot info = s.slot info) := by
  constructor
  · by_cases h : info.subevent.toNat = g
    · rw [slot, slot, h, syncBuf_updateGroup_same, SyncBuffer.dumpRespBuf]
      dsimp only
      split <;> rfl
    · rw [slot, slot, syncBuf_updateGroup_ne _ _ _ h]
  · intro h
    rw [slot, slot, syncBuf_updateGroup_ne _ _ _ h]

/-- **Three events touch the slots**: a response, the work that takes it up, a dump. -/
lemma sameResponses_step (hstep : s.step cfg ead e = some s')
    (hresponse : ∀ info buf wreck, e = .pawrResponse info buf wreck → buf.len = 0)
    (hwork : ∀ stack wreck, e ≠ .respFillBufWork stack wreck)
    (hdump : ∀ g, e ≠ .dumpRespBuf g) : SameResponses s s' := by
  cases e with
  | pushSyncBuf c data g =>
      obtain ⟨-, rfl⟩ := step_pushSyncBuf_eq_some.mp hstep
      simp only [pushSyncBuf]
      split <;> exact ⟨fun _ => rfl, rfl, rfl⟩
  | pushClaim c | pushCompose c rnd | pushReturn c | pingClear | pingCompose rnd | pingReady =>
      simp only [step] at hstep
      split at hstep
      · cases hstep
        exact .of_update rfl rfl rfl rfl
      · cases hstep
  | pawrRequest request =>
      cases hstep
      exact ⟨fun _ => rfl, rfl, rfl⟩
  | fillBufWork =>
      obtain ⟨-, rfl⟩ := step_fillBufWork_eq_some.mp hstep
      exact ⟨fun _ => rfl, rfl, rfl⟩
  | fillBufTurn =>
      obtain ⟨w, -, -, rfl⟩ := step_fillBufTurn_eq_some.mp hstep
      simp only [fillBufTurn]
      split
      · exact ⟨fun _ => rfl, rfl, rfl⟩
      · exact .of_update rfl rfl rfl rfl
  | setSubeventData accepted =>
      obtain ⟨w, -, -, rfl⟩ := step_setSubeventData_eq_some.mp hstep
      simp only [setSubeventData]
      split
      · exact ⟨fun _ => rfl, rfl, rfl⟩
      · refine ⟨fun info => ?_, rfl, rfl⟩
        simp only [slot, restore]
        split <;> rfl
  | pawrResponse info buf wreck =>
      cases hstep
      have hval : s.pawrResponse cfg info buf = pure s := by
        rw [pawrResponse, if_pos (hresponse _ _ _ rfl)]
      rw [hval, orWreck_of_safe (Traced.safe_pure s)]
      exact ⟨fun _ => rfl, rfl, rfl⟩
  | respFillBufWork stack wreck => exact absurd rfl (hwork stack wreck)
  | dumpRespBuf g => exact absurd rfl (hdump g)
  | pingWork =>
      obtain ⟨-, rfl⟩ := step_pingWork_eq_some.mp hstep
      exact ⟨fun _ => rfl, rfl, rfl⟩

/-- An event that writes one slot leaves the other ones alone. -/
lemma slot_of_update (s s' : Ap) (info : ResponseInfo) {b : SyncBuffer} {r : RspBuffer}
    (hs : s'.syncBuf = Function.update s.syncBuf info.subevent.toNat b)
    (hb : b.rspBuffer = Function.update (s.syncBuf info.subevent.toNat).rspBuffer
      info.responseSlot.toNat r) (info' : ResponseInfo) :
    s'.slot info' = if info' = info then r else s.slot info' := by
  by_cases hg : info'.subevent = info.subevent
  · rw [slot, slot, hs, hg, Function.update_self, hb, Function.update_apply]
    have hiff : info'.responseSlot.toNat = info.responseSlot.toNat ↔ info' = info := by
      rw [UInt8.toNat_inj]
      exact ⟨fun h => congrArg₂ ResponseInfo.mk hg h, fun h => congrArg _ h⟩
    simp only [hiff]
  · have hne : info'.subevent.toNat ≠ info.subevent.toNat := fun h => hg (UInt8.toNat_inj.mp h)
    rw [slot, slot, hs, Function.update_of_ne hne, if_neg fun h => hg (congrArg _ h)]

/-- A slot that is written with its key unchanged keeps its key, as all others do. -/
lemma rspKey_of_slot {info : ResponseInfo} {r : RspBuffer}
    (h : ∀ info', s'.slot info' = if info' = info then r else s.slot info')
    (hkey : r.rspKey = (s.slot info).rspKey) (info' : ResponseInfo) :
    (s'.slot info').rspKey = (s.slot info').rspKey := by
  rw [h]
  split
  · rename_i heq
    rw [hkey, heq]
  · rfl

/-- A response that fits is copied to its slot, and the work is queued for it. -/
lemma pawrResponse_of_fits {info : ResponseInfo} {buf : NetBuf} {wreck : Ap} (h₀ : buf.len ≠ 0)
    (h : s.FitsSlot cfg info buf)
    (hstep : s.step cfg ead (.pawrResponse info buf wreck) = some s') :
    s'.respPending = true ∧ s'.respInfo = info ∧ (s'.slot info).bytes = buf.bytes
      ∧ (s'.slot info).rspLen.toNat = buf.len ∧ ((s'.slot info).LegitEad → 11 ≤ buf.len)
      ∧ ∀ info', (s'.slot info').rspKey = (s.slot info').rspKey := by
  obtain ⟨hgroup, hslot, hlen, hmin⟩ := h
  set b := (s.syncBuf info.subevent.toNat).storeResponse cfg info.responseSlot buf with hb
  have hval : (s.pawrResponse cfg info buf).val
      = { s.updateGroup info.subevent.toNat fun _ => b.val with
          respInfo := info, respPending := true } := by
    simp [pawrResponse, h₀, hb, updateGroup]
  have hsafe : (s.pawrResponse cfg info buf).Safe := by
    simp only [pawrResponse, if_neg h₀, Traced.safe_bind, Traced.safe_access, Access.Safe,
      Traced.safe_pure, SyncBuffer.safe_storeResponse, and_true]
    exact ⟨hgroup, hslot, hlen⟩
  obtain ⟨hrspLen, hlegit⟩ := SyncBuffer.legitEad_storeResponse cfg info.responseSlot
    (s.syncBuf info.subevent.toNat) h₀ hlen
  simp only [step, orWreck_of_safe hsafe, hval, Option.some_inj] at hstep
  have hnew := slot_of_update s s' info (b := b.val) (by rw [← hstep]; rfl) rfl
  have hown : s'.slot info = b.val.rspBuffer info.responseSlot.toNat := by
    rw [hnew, if_pos rfl, hb]
    simp [SyncBuffer.storeResponse]
  rw [← hown] at hrspLen hlegit
  refine ⟨by rw [← hstep], by rw [← hstep], ?_, hrspLen, fun h => hmin (hlegit.mp h),
    rspKey_of_slot hnew rfl⟩
  rw [RspBuffer.bytes, hrspLen, hnew, if_pos rfl, ← NetBuf.length_bytes]
  exact Mem.read_write _ 0 buf.bytes

/-- A run of the work that stays inside the buffers takes up the slot that the record names. -/
lemma respFillBufWork_of_fits {stack : Mem} {wreck : Ap}
    (hgroup : s.respInfo.subevent.toNat < cfg.maxGroup)
    (hslot : s.respInfo.responseSlot.toNat < cfg.maxResponseSlotBuffer)
    (hmax : (s.slot s.respInfo).rspLen.toNat ≤ eslEncryptedDataMaxLen)
    (hmin : (s.slot s.respInfo).LegitEad → 11 ≤ (s.slot s.respInfo).rspLen.toNat)
    (hstep : s.step cfg ead (.respFillBufWork stack wreck) = some s') :
    s'.respPending = false
      ∧ s'.slot s.respInfo = ((s.slot s.respInfo).takeUp ead stack s.respInfo.responseSlot).val
      ∧ ∀ info', (s'.slot info').rspKey = (s.slot info').rspKey := by
  have hsafe : (s.respFillBufWorkFn cfg ead stack).Safe := by
    simp only [respFillBufWorkFn, SyncBuffer.respFillBufWorkFn, Traced.safe_bind,
      Traced.safe_access, Access.Safe, Traced.safe_pure, and_true]
    exact ⟨hgroup, hslot, (RspBuffer.safe_takeUp stack s.respInfo.responseSlot hmax).mpr hmin⟩
  obtain ⟨-, hstep⟩ := step_respFillBufWork_eq_some.mp hstep
  rw [orWreck_of_safe hsafe, val_respFillBufWorkFn] at hstep
  have hnew := slot_of_update s s' s.respInfo (by rw [← hstep]; rfl) rfl
  exact ⟨by rw [← hstep]; rfl, by rw [hnew, if_pos rfl]; rfl,
    rspKey_of_slot hnew (RspBuffer.rspKey_takeUp _ _)⟩

end Ap

/-! ## The invariant -/

/-- A response waits only where the work can take it up, and the keys are the ones at the start. -/
structure ResponseInv (cfg : ApConfig) (ead : Ead) (s₀ : Ap) (x : Ap × ResponseHistory) : Prop where
  all : AllProcessed ead s₀ x
  rspKey : ∀ info, (x.1.slot info).rspKey = (s₀.slot info).rspKey
  fits : x.1.respPending = true → x.1.respInfo.subevent.toNat < cfg.maxGroup
    ∧ x.1.respInfo.responseSlot.toNat < cfg.maxResponseSlotBuffer
    ∧ (x.1.slot x.1.respInfo).rspLen.toNat ≤ eslEncryptedDataMaxLen
    ∧ ((x.1.slot x.1.respInfo).LegitEad → 11 ≤ (x.1.slot x.1.respInfo).rspLen.toNat)

namespace ResponseInv

variable {cfg : ApConfig} {ead : Ead} {s₀ : Ap} {x y : Ap × ResponseHistory} {e : ApEvent}

open Ap

/-- A step that touches no slot of a waiting response. -/
lemma same (h : ResponseInv cfg ead s₀ x) (hh : y.2 = x.2)
    (hkey : ∀ info, (y.1.slot info).rspKey = (x.1.slot info).rspKey)
    (hpending : y.1.respPending = x.1.respPending)
    (hs : x.1.respPending = true →
      y.1.respInfo = x.1.respInfo ∧ y.1.slot x.1.respInfo = x.1.slot x.1.respInfo) :
    ResponseInv cfg ead s₀ y := by
  refine ⟨⟨fun hidle => ?_, fun hqueued => ?_⟩, fun info => ?_, fun hqueued => ?_⟩
  · rw [hh]
    exact h.all.idle (hpending ▸ hidle)
  · rw [hpending] at hqueued
    obtain ⟨hinfo, hslot⟩ := hs hqueued
    obtain ⟨earlier, r, hreceived, hprocessed, hr, hbytes⟩ := h.all.queued hqueued
    refine ⟨earlier, r, hh ▸ hreceived, hh ▸ hprocessed, hinfo.trans hr, ?_⟩
    rw [← hr, hslot, hr, hbytes]
  · rw [hkey, h.rspKey]
  · rw [hpending] at hqueued
    obtain ⟨hinfo, hslot⟩ := hs hqueued
    rw [hinfo, hslot]
    exact h.fits hqueued

/-- A response that finds the work idle waits for it. -/
lemma pawrResponse (h : ResponseInv cfg ead s₀ x) {info : ResponseInfo} {buf : NetBuf} {wreck : Ap}
    (h₀ : buf.len ≠ 0) (hidle : x.1.respPending = false) (hfits : x.1.FitsSlot cfg info buf)
    (hd : x.1.step cfg ead (.pawrResponse info buf wreck) = some y.1)
    (hy : y.2 = responseHistoryAfter x.1 (.pawrResponse info buf wreck) y.1 x.2) :
    ResponseInv cfg ead s₀ y := by
  obtain ⟨hpending, hinfo, hbytes, hlen, hlegit, hkey⟩ := pawrResponse_of_fits h₀ hfits hd
  rw [responseHistoryAfter, if_neg h₀] at hy
  refine ⟨⟨fun hidle' => ?_, fun _ => ?_⟩, fun info' => ?_, fun _ => ?_⟩
  · rw [hpending] at hidle'
    cases hidle'
  · exact ⟨x.2.received, ⟨info, buf.bytes⟩, by rw [hy], by rw [hy, h.all.idle hidle], hinfo, hbytes⟩
  · rw [hkey, h.rspKey]
  · rw [hinfo, hlen]
    exact ⟨hfits.1, hfits.2.1, hfits.2.2.1, hlegit⟩

/-- The work runs: the response that waits is processed. -/
lemma respFillBufWork (hl : ead.Lawful) (h : ResponseInv cfg ead s₀ x) {stack : Mem} {wreck : Ap}
    (hd : x.1.step cfg ead (.respFillBufWork stack wreck) = some y.1)
    (hy : y.2 = responseHistoryAfter x.1 (.respFillBufWork stack wreck) y.1 x.2) :
    ResponseInv cfg ead s₀ y := by
  have hqueued : x.1.respPending = true := (Ap.step_respFillBufWork_eq_some.mp hd).1
  obtain ⟨hgroup, hslot, hmax, hmin⟩ := h.fits hqueued
  obtain ⟨earlier, r, hreceived, hprocessed, hr, hbytes⟩ := h.all.queued hqueued
  obtain ⟨hidle, htaken, hkey⟩ := respFillBufWork_of_fits hgroup hslot hmax hmin hd
  have hrun : (⟨⟨x.1.respInfo, (x.1.slot x.1.respInfo).bytes⟩, (y.1.slot x.1.respInfo).bytes⟩ :
      Processing) = r.processing ead s₀ := by
    rw [htaken, RspBuffer.bytes_takeUp hl stack x.1.respInfo.responseSlot hmin, h.rspKey, hr, hbytes]
    rfl
  rw [responseHistoryAfter, hrun] at hy
  refine ⟨⟨fun _ => ?_, fun hqueued' => ?_⟩, fun info => ?_, fun hqueued' => ?_⟩
  · rw [hy, hprocessed, hreceived, List.map_append, List.map_singleton]
  · rw [hidle] at hqueued'
    cases hqueued'
  · rw [hkey, h.rspKey]
  · rw [hidle] at hqueued'
    cases hqueued'

/-- **One step.**  As long as every response comes in turn, all are processed. -/
theorem preserved (hl : ead.Lawful) (s₀ : Ap) :
    PreservedUnder (stepResponses cfg ead) (InTurn cfg) (ResponseInv cfg ead s₀) := by
  intro x e y h hg hstep
  obtain ⟨hd, hy⟩ := withHistory_eq_some.mp hstep
  have hother : (∀ info buf wreck, e = .pawrResponse info buf wreck → buf.len = 0) →
      (∀ stack wreck, e ≠ .respFillBufWork stack wreck) → (∀ g, e ≠ .dumpRespBuf g) →
      responseHistoryAfter x.1 e y.1 x.2 = x.2 → ResponseInv cfg ead s₀ y := by
    intro h₁ h₂ h₃ hh
    have hs := sameResponses_step hd h₁ h₂ h₃
    exact h.same (hy.trans hh) (fun info => by rw [hs.slot]) hs.respPending
      fun _ => ⟨hs.respInfo, hs.slot _⟩
  cases e with
  | pawrResponse info buf wreck =>
      by_cases h₀ : buf.len = 0
      · refine hother ?_ (by rintro _ _ ⟨⟩) (by rintro _ ⟨⟩) ?_
        · rintro _ _ _ ⟨⟩
          exact h₀
        · rw [responseHistoryAfter, if_pos h₀]
      · exact h.pawrResponse h₀ (hg h₀).1 (hg h₀).2 hd hy
  | respFillBufWork stack wreck => exact h.respFillBufWork hl hd hy
  | dumpRespBuf g =>
      obtain ⟨-, hd⟩ := step_dumpRespBuf_eq_some.mp hd
      have hslot := slot_dumpRespBuf cfg x.1 g
      rw [hd] at hslot
      exact h.same hy (fun info => (hslot info).1) (by rw [← hd]; rfl)
        fun hqueued => ⟨by rw [← hd]; rfl, (hslot _).2 (hg hqueued)⟩
  | _ => exact hother (by rintro _ _ _ ⟨⟩) (by rintro _ _ ⟨⟩) (by rintro _ ⟨⟩) rfl

/-- A response that comes while another one waits leaves that one behind: two are missing, and the
work is queued once. -/
theorem not_allProcessed_of_queued (h : ResponseInv cfg ead s₀ x) {info : ResponseInfo}
    {buf : NetBuf} {wreck : Ap} (h₀ : buf.len ≠ 0) (hqueued : x.1.respPending = true)
    (hfits : x.1.FitsSlot cfg info buf)
    (hstep : stepResponses cfg ead x (.pawrResponse info buf wreck) = some y) :
    ¬ AllProcessed ead s₀ y := by
  obtain ⟨hd, hy⟩ := withHistory_eq_some.mp hstep
  obtain ⟨earlier, r, hreceived, hprocessed, -, -⟩ := h.all.queued hqueued
  obtain ⟨hpending, -⟩ := pawrResponse_of_fits h₀ hfits hd
  rw [responseHistoryAfter, if_neg h₀] at hy
  intro hall
  obtain ⟨earlier', r', hreceived', hprocessed', -⟩ := hall.queued hpending
  rw [hy, hreceived] at hreceived'
  rw [hy, hprocessed] at hprocessed'
  have hlen := congrArg List.length hreceived'
  have hlen' := congrArg List.length hprocessed'
  simp only [List.length_append, List.length_map, List.length_singleton] at hlen hlen'
  omega

end ResponseInv

/-- **Every response is processed.**  In every run from a state with nothing queued, in which the
responses come in turn, each is processed once, under the key of its slot. -/
theorem allProcessed_of_inTurn (cfg : ApConfig) (ead : Ead) (hl : ead.Lawful) (s₀ : Ap)
    (hidle : s₀.respPending = false) (es : List ApEvent)
    (hG : StepsMeet (stepResponses cfg ead) (InTurn cfg) (s₀, {}) es) :
    AlongRun (stepResponses cfg ead) (AllProcessed ead s₀) (s₀, {}) es := by
  have hinit : ResponseInv cfg ead s₀ (s₀, {}) := by
    refine ⟨⟨fun _ => rfl, fun hqueued => ?_⟩, fun _ => rfl, fun hqueued => ?_⟩
    · rw [hidle] at hqueued
      cases hqueued
    · rw [hidle] at hqueued
      cases hqueued
  exact (alongRun_of_stepsMeet (ResponseInv.preserved hl s₀) hinit hG).imp fun _ h => h.all

/-! ### Two responses of one subevent -/

/-- A Basic State response, encrypted. -/
def basicStateResponse : NetBuf :=
  .ofBytes (encryptedAd ([0, 0, 0, 0, 0x80] ++ eslAd [0x10, 0x02, 0x00] ++ [0, 0, 0, 0])) fun _ => 0

/-- A response in slot `n` of group 0. -/
def responseIn (n : UInt8) : ApEvent := .pawrResponse ⟨0, n⟩ basicStateResponse (Ap.init .zero)

def responseWork : ApEvent := .respFillBufWork (fun _ => 0) (Ap.init .zero)

/-- Two responses with the work in between are both processed. -/
theorem allProcessed_twoSlots :
    AlongRun (stepResponses .default .clear) (AllProcessed .clear (Ap.init .zero))
      (Ap.init .zero, {}) [responseIn 0, responseWork, responseIn 1, responseWork] := by
  refine allProcessed_of_inTurn .default .clear Ead.lawful_clear (Ap.init .zero) rfl _ ?_
  rintro _ ⟨⟩
  refine ⟨fun _ => ⟨rfl, by decide, by decide, by decide, fun _ => by decide⟩, ?_⟩
  rintro _ ⟨⟩
  refine ⟨trivial, ?_⟩
  rintro _ ⟨⟩
  refine ⟨fun _ => ⟨by decide +kernel, by decide, by decide, by decide, fun _ => by decide⟩, ?_⟩
  rintro _ ⟨⟩
  exact ⟨trivial, trivial⟩

/-- Two responses back to back: the work runs for the second one, and the first stays encrypted. -/
theorem allProcessed_fails :
    ((run (stepResponses .default .clear) (Ap.init .zero, {})
        [responseIn 0, responseIn 1, responseWork]).map fun x =>
      (x.1.respPending, x.2.received.map (·.info), x.2.processed.map (·.response.info),
        (x.1.slot ⟨0, 0⟩).bytes))
        = some (false, [⟨0, 0⟩, ⟨0, 1⟩], [⟨0, 1⟩], basicStateResponse.bytes)
    ∧ ¬ AlongRun (stepResponses .default .clear) (AllProcessed .clear (Ap.init .zero))
        (Ap.init .zero, {}) [responseIn 0, responseIn 1, responseWork] := by
  have hrun : ((run (stepResponses .default .clear) (Ap.init .zero, {})
        [responseIn 0, responseIn 1, responseWork]).map fun x =>
      (x.1.respPending, x.2.received.map (·.info), x.2.processed.map (·.response.info),
        (x.1.slot ⟨0, 0⟩).bytes))
        = some (false, [⟨0, 0⟩, ⟨0, 1⟩], [⟨0, 1⟩], basicStateResponse.bytes) := by
    decide +kernel
  refine ⟨hrun, fun hall => ?_⟩
  obtain ⟨x, hproj, hlast⟩ := hall.exists_of_map hrun
  simp only [Prod.mk.injEq] at hproj
  obtain ⟨hidle, hreceived, hprocessed, -⟩ := hproj
  have hall := congrArg (List.map (·.response.info)) (hlast.idle hidle)
  rw [hprocessed, List.map_map] at hall
  exact absurd (hall.trans hreceived) (by decide)

end NrfEsl
