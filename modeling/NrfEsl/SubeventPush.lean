import NrfEsl.Ap.Step
import NrfEsl.Lib.Sweep
import Mathlib.Data.List.Nodup

/-!
# Feeding the controller

When the controller asks for the data of some subevents, `esl_c_push_sync_to_controller` walks over
the groups from the first one on, around the end, and fills three parallel arrays with the packets of
the groups that are ready.  If the controller refuses them, a second loop over these arrays makes the
groups ready again.

The loop is a sweep over a ring (`pushTurns_eq`), so a window that is longer than the ring still takes
each group once.  `pushesReady` states the contract of the whole call, and `run_eslCPushSyncToController`
says that it is the call of `Ap.step` that nobody interrupts.
-/

namespace NrfEsl

/-- `DEFAULT_RESPONSE_START` -/
def defaultResponseStart : ℕ := 0

/-- `struct bt_le_per_adv_subevent_data_params`, with the contents of the buffer it points to. -/
structure SubeventDataParams where
  subevent : ℕ
  responseSlotStart : ℕ
  responseSlotCount : ℕ
  data : List UInt8
  deriving DecidableEq, Repr

/-- What a call leaves: its result, the sync buffers, and what it handed to
`bt_le_per_adv_set_subevent_data`. -/
structure PushOutcome where
  err : ℤ
  syncBuf : ℕ → SyncBuffer
  submitted : Option (List SubeventDataParams)

section Call

variable (cfg : ApConfig) (txBuffers : ℕ)

/-- The entry for a group; its buffer is reset, and the packet added to it. -/
def subeventDataParams (g : ℕ) (b : SyncBuffer) : SubeventDataParams :=
  ⟨g, defaultResponseStart, cfg.numResponseSlots, b.packet⟩

/-- Turn `i` of the loop, over the sync buffers and the arrays filled so far. -/
def pushTurn (groupId : UInt8) (i : ℕ) (x : (ℕ → SyncBuffer) × List SubeventDataParams) :
    Traced ((ℕ → SyncBuffer) × List SubeventDataParams) :=
  let currentSubevent := (groupId.toNat + i) % cfg.maxGroup
  let b := x.1 currentSubevent
  if b.status ≠ .readyToPush then pure x
  else do
    -- `num_subevents` is the number of entries so far
    Traced.access (.index txBuffers x.2.length)
    Traced.access (.write eslEncryptedDataMaxLen 0 b.dataLen.toNat)
    pure (Function.update x.1 currentSubevent { b with status := .pushed },
      x.2 ++ [subeventDataParams cfg currentSubevent b])

/-- The loop after its first turns. -/
def pushTurns (groupId : UInt8) (syncBuf : ℕ → SyncBuffer) :
    ℕ → Traced ((ℕ → SyncBuffer) × List SubeventDataParams)
  | 0 => pure (syncBuf, [])
  | i + 1 => do
      let x ← pushTurns groupId syncBuf i
      pushTurn cfg txBuffers groupId i x

/-- The second loop: the groups of the entries are ready again. -/
def undoTurns (syncBuf : ℕ → SyncBuffer) (params : List SubeventDataParams) : ℕ → SyncBuffer :=
  params.foldl (fun syncBuf p => Function.update syncBuf p.subevent
    { syncBuf p.subevent with status := .readyToPush }) syncBuf

/-- `esl_c_push_sync_to_controller`; `setSubeventData` is the answer of the controller. -/
def eslCPushSyncToController (setSubeventData : List SubeventDataParams → ℤ) (groupId count : UInt8)
    (syncBuf : ℕ → SyncBuffer) : Traced PushOutcome := do
  let x ← pushTurns cfg txBuffers groupId syncBuf count.toNat
  if 0 < x.2.length then
    let err := setSubeventData x.2
    if err ≠ 0 then pure ⟨err, undoTurns x.1 x.2, some x.2⟩ else pure ⟨err, x.1, some x.2⟩
  else pure ⟨0, x.1, none⟩

end Call

/-! ## What the call is for -/

section Spec

variable (cfg : ApConfig) (groupId count : UInt8) (syncBuf : ℕ → SyncBuffer)

/-- The groups of the window, in its order. -/
def window : List ℕ :=
  (List.range (min count.toNat cfg.maxGroup)).map (Sweep.ring groupId.toNat cfg.maxGroup)

/-- Those that are ready. -/
def readyGroups : List ℕ :=
  (window cfg groupId count).filter fun g => (syncBuf g).status = .readyToPush

variable {cfg groupId count syncBuf}

lemma maxGroup_pos (cfg : ApConfig) : 0 < cfg.maxGroup := cfg.maxGroup_mem.1

lemma window_eq : window cfg groupId count
    = Sweep.firsts (Sweep.ring groupId.toNat cfg.maxGroup) count.toNat :=
  (Sweep.firsts_ring _ (maxGroup_pos cfg) _).symm

/-- The window has the groups that are asked for, whatever their number. -/
lemma mem_window {g : ℕ} : g ∈ window cfg groupId count
    ↔ ∃ i < count.toNat, (groupId.toNat + i) % cfg.maxGroup = g := by
  rw [window_eq, Sweep.mem_firsts]
  rfl

/-- No group is in it twice. -/
lemma nodup_window : (window cfg groupId count).Nodup := by
  refine List.Nodup.map_on ?_ List.nodup_range
  intro i hi j hj h
  have hi' := List.mem_range.mp hi
  have hj' := List.mem_range.mp hj
  exact Sweep.ring_inj (Nat.lt_of_lt_of_le hi' (Nat.min_le_right _ _))
    (Nat.lt_of_lt_of_le hj' (Nat.min_le_right _ _)) h

end Spec

/-- **The contract of a call.** -/
structure PushesReady (cfg : ApConfig) (setSubeventData : List SubeventDataParams → ℤ)
    (groupId count : UInt8) (syncBuf : ℕ → SyncBuffer) (r : Traced PushOutcome) : Prop where
  /-- Each ready group of the window is submitted once, in the order of the window, with its
  `data_len` bytes, and no other group. -/
  submitted : r.val.submitted = if readyGroups cfg groupId count syncBuf = [] then none
    else some ((readyGroups cfg groupId count syncBuf).map fun g =>
      ⟨g, defaultResponseStart, cfg.numResponseSlots,
        (syncBuf g).data.read 0 (syncBuf g).dataLen.toNat⟩)
  /-- The result is the controller's, if it was asked. -/
  result : r.val.err = (r.val.submitted.map setSubeventData).getD 0
  /-- On success these groups are pushed, and nothing else changes. -/
  pushed : r.val.err = 0 → r.val.syncBuf = fun g =>
    if g ∈ readyGroups cfg groupId count syncBuf then { syncBuf g with status := .pushed }
    else syncBuf g
  /-- On failure nothing changes. -/
  restored : r.val.err ≠ 0 → r.val.syncBuf = syncBuf
  /-- The arrays and the buffers are not left, when no packet is longer than a sync buffer. -/
  inBounds : (∀ g, (syncBuf g).dataLen.toNat ≤ eslEncryptedDataMaxLen) → r.Safe

/-! ## The loops -/

section Loops

variable {cfg : ApConfig} {txBuffers : ℕ} {groupId count : UInt8} {syncBuf : ℕ → SyncBuffer}

/-- A turn is a visit of the sweep. -/
lemma val_pushTurn (i : ℕ) (x : (ℕ → SyncBuffer) × List (ℕ × SyncBuffer)) :
    (pushTurn cfg txBuffers groupId i
        (x.1, x.2.map fun y => subeventDataParams cfg y.1 y.2)).val
      = Prod.map id (List.map fun y => subeventDataParams cfg y.1 y.2)
        (Sweep.visit (fun b => b.status = .readyToPush) (fun b => { b with status := .pushed })
          (Sweep.ring groupId.toNat cfg.maxGroup i) x) := by
  rw [pushTurn, Sweep.visit]
  show (if ¬ (x.1 (Sweep.ring groupId.toNat cfg.maxGroup i)).status = .readyToPush then _ else _ :
    Traced _).val = _
  rw [Traced.val_ite]
  by_cases hready : (x.1 (Sweep.ring groupId.toNat cfg.maxGroup i)).status = .readyToPush
  · rw [if_neg (not_not.mpr hready), if_pos hready]
    simp only [Prod.map, List.map_append, List.map_cons, List.map_nil]
    rfl
  · rw [if_pos hready, if_neg hready]
    rfl

/-- **The loop is a sweep** around the ring of groups. -/
lemma val_pushTurns (k : ℕ) :
    (pushTurns cfg txBuffers groupId syncBuf k).val
      = Prod.map id (List.map fun y => subeventDataParams cfg y.1 y.2)
        (Sweep.sweep (fun b => b.status = .readyToPush) (fun b => { b with status := .pushed })
          (Sweep.ring groupId.toNat cfg.maxGroup) syncBuf k) := by
  induction k with
  | zero => rfl
  | succ k ih =>
      rw [pushTurns, Traced.val_bind, ih, Sweep.sweep]
      exact val_pushTurn k _

/-- The groups taken by the first turns. -/
def takenGroups (cfg : ApConfig) (groupId : UInt8) (syncBuf : ℕ → SyncBuffer) : ℕ → List ℕ :=
  Sweep.collected (fun b : SyncBuffer => b.status = .readyToPush)
    (Sweep.ring groupId.toNat cfg.maxGroup) syncBuf

/-- What the first turns leave. -/
lemma pushTurns_eq (k : ℕ) : (pushTurns cfg txBuffers groupId syncBuf k).val
    = (fun g => if g ∈ takenGroups cfg groupId syncBuf k then
          { syncBuf g with status := .pushed } else syncBuf g,
        (takenGroups cfg groupId syncBuf k).map fun g => subeventDataParams cfg g (syncBuf g)) := by
  have hmark : ∀ b : SyncBuffer,
      ¬ { b with status := SyncBufferStatus.pushed }.status = .readyToPush := by
    intro b h
    cases h
  rw [val_pushTurns, Sweep.sweep_eq hmark]
  exact Prod.ext rfl (List.map_map ..)

/-- All turns take the ready groups. -/
lemma takenGroups_eq :
    takenGroups cfg groupId syncBuf count.toNat = readyGroups cfg groupId count syncBuf := by
  rw [readyGroups, window_eq]
  rfl

/-- A turn in an array with room, over packets that fit. -/
lemma safe_pushTurn {i : ℕ} {x : (ℕ → SyncBuffer) × List SubeventDataParams}
    (hlen : ∀ g, (x.1 g).dataLen.toNat ≤ eslEncryptedDataMaxLen) (hx : x.2.length < txBuffers) :
    (pushTurn cfg txBuffers groupId i x).Safe := by
  rw [pushTurn]
  refine (Traced.safe_ite _ _ _).mpr ?_
  split
  · exact Traced.safe_pure _
  · rw [Traced.safe_bind, Traced.safe_access, Traced.safe_bind, Traced.safe_access]
    refine ⟨hx, ?_, Traced.safe_pure _⟩
    rw [Access.Safe, Nat.zero_add]
    exact hlen _

/-- The entries stay in their arrays, and the packets in their buffers. -/
lemma safe_pushTurns (hlen : ∀ g, (syncBuf g).dataLen.toNat ≤ eslEncryptedDataMaxLen) {k : ℕ}
    (hk : k ≤ txBuffers) : (pushTurns cfg txBuffers groupId syncBuf k).Safe := by
  induction k with
  | zero => exact Traced.safe_pure _
  | succ k ih =>
      rw [pushTurns, Traced.safe_bind, pushTurns_eq]
      refine ⟨ih (Nat.le_of_succ_le hk), safe_pushTurn (fun g => ?_) ?_⟩
      · show (if g ∈ _ then _ else _ : SyncBuffer).dataLen.toNat ≤ _
        split
        · exact hlen g
        · exact hlen g
      · rw [List.length_map]
        exact Nat.lt_of_le_of_lt (Sweep.length_collected_le k) hk

/-- The second loop in one step. -/
lemma undoTurns_eq (params : List SubeventDataParams) (syncBuf : ℕ → SyncBuffer) :
    undoTurns syncBuf params = fun g =>
      if g ∈ params.map (·.subevent) then { syncBuf g with status := .readyToPush }
      else syncBuf g := by
  induction params generalizing syncBuf with
  | nil =>
      funext g
      exact (if_neg List.not_mem_nil).symm
  | cons p params ih =>
      rw [undoTurns, List.foldl_cons]
      refine (ih _).trans ?_
      funext g
      simp only [List.map_cons, List.mem_cons, Function.update_apply]
      by_cases hp : g = p.subevent
      · subst hp
        simp
      · simp only [hp, if_false, false_or]

/-- **Rollback**: it undoes the marks of the first loop. -/
lemma undoTurns_pushTurns (k : ℕ) :
    undoTurns (pushTurns cfg txBuffers groupId syncBuf k).val.1
      (pushTurns cfg txBuffers groupId syncBuf k).val.2 = syncBuf := by
  have hgroups : ((takenGroups cfg groupId syncBuf k).map fun g =>
      subeventDataParams cfg g (syncBuf g)).map (·.subevent) = takenGroups cfg groupId syncBuf k := by
    rw [List.map_map]
    exact List.map_id _
  rw [pushTurns_eq, undoTurns_eq]
  simp only [hgroups]
  funext g
  by_cases hg : g ∈ takenGroups cfg groupId syncBuf k
  · have hready : (syncBuf g).status = .readyToPush := (Sweep.mem_collected.mp hg).2
    simp only [if_pos hg]
    rw [← hready]
  · simp only [if_neg hg]

variable (cfg groupId count syncBuf) in
/-- The entries of the ready groups. -/
def readyParams : List SubeventDataParams :=
  (readyGroups cfg groupId count syncBuf).map fun g => subeventDataParams cfg g (syncBuf g)

variable (cfg groupId count syncBuf) in
/-- The sync buffers with the ready groups pushed. -/
def pushedGroups (g : ℕ) : SyncBuffer :=
  if g ∈ readyGroups cfg groupId count syncBuf then { syncBuf g with status := .pushed }
  else syncBuf g

variable (cfg txBuffers groupId count syncBuf) in
/-- **What the call leaves**, in its three cases. -/
lemma val_eslCPushSyncToController (setSubeventData : List SubeventDataParams → ℤ) :
    (eslCPushSyncToController cfg txBuffers setSubeventData groupId count syncBuf).val
      = if readyGroups cfg groupId count syncBuf = [] then ⟨0, syncBuf, none⟩
        else if setSubeventData (readyParams cfg groupId count syncBuf) ≠ 0 then
          ⟨setSubeventData (readyParams cfg groupId count syncBuf), syncBuf,
            some (readyParams cfg groupId count syncBuf)⟩
        else ⟨setSubeventData (readyParams cfg groupId count syncBuf),
          pushedGroups cfg groupId count syncBuf, some (readyParams cfg groupId count syncBuf)⟩ := by
  have hturns : (pushTurns cfg txBuffers groupId syncBuf count.toNat).val
      = (pushedGroups cfg groupId count syncBuf, readyParams cfg groupId count syncBuf) := by
    rw [pushTurns_eq, takenGroups_eq]
    rfl
  have hundo : undoTurns (pushTurns cfg txBuffers groupId syncBuf count.toNat).val.1
      (pushTurns cfg txBuffers groupId syncBuf count.toNat).val.2 = syncBuf :=
    undoTurns_pushTurns count.toNat
  rw [hturns] at hundo
  rw [eslCPushSyncToController, Traced.val_bind, hturns]
  by_cases hempty : readyGroups cfg groupId count syncBuf = []
  · have hlength : ¬ 0 < (readyParams cfg groupId count syncBuf).length := by
      rw [readyParams, hempty]
      exact Nat.lt_irrefl 0
    have hsame : pushedGroups cfg groupId count syncBuf = syncBuf := by
      funext g
      rw [pushedGroups, hempty, if_neg List.not_mem_nil]
    simp only [if_neg hlength, if_pos hempty, hsame]
    rfl
  · have hlength : 0 < (readyParams cfg groupId count syncBuf).length := by
      rw [readyParams, List.length_map]
      exact List.length_pos_iff.mpr hempty
    simp only [if_pos hlength, if_neg hempty]
    rw [Traced.val_ite, hundo]
    rfl

lemma safe_eslCPushSyncToController (setSubeventData : List SubeventDataParams → ℤ)
    (hlen : ∀ g, (syncBuf g).dataLen.toNat ≤ eslEncryptedDataMaxLen)
    (hcount : count.toNat ≤ txBuffers) :
    (eslCPushSyncToController cfg txBuffers setSubeventData groupId count syncBuf).Safe := by
  rw [eslCPushSyncToController, Traced.safe_bind]
  refine ⟨safe_pushTurns hlen hcount, ?_⟩
  refine (Traced.safe_ite _ _ _).mpr ?_
  split
  · refine (Traced.safe_ite _ _ _).mpr ?_
    split
    · exact Traced.safe_pure _
    · exact Traced.safe_pure _
  · exact Traced.safe_pure _

end Loops

/-! ## The call among the other parties -/

section Run

variable {cfg : ApConfig} {ead : Ead} {txBuffers : ℕ} {s : Ap} {req : DataRequest}

/-- An entry as `Ap.step` keeps it. -/
def SubeventDataParams.entry (p : SubeventDataParams) : ℕ × List UInt8 := (p.subevent, p.data)

variable (cfg txBuffers req) in
/-- A turn of `Ap.step` is a turn of the loop. -/
lemma fillBufTurn_eq {x : (ℕ → SyncBuffer) × List SubeventDataParams} (hbuf : s.syncBuf = x.1)
    (i : ℕ) :
    (s.fillBufTurn cfg ⟨req, i, x.2.map (·.entry)⟩).syncBuf
        = (pushTurn cfg txBuffers req.start i x).val.1
      ∧ (s.fillBufTurn cfg ⟨req, i, x.2.map (·.entry)⟩).fillBuf
        = some ⟨req, i + 1, (pushTurn cfg txBuffers req.start i x).val.2.map (·.entry)⟩ := by
  simp only [Ap.fillBufTurn, pushTurn, Ap.currentSubevent, hbuf]
  by_cases hready : (x.1 ((req.start.toNat + i) % cfg.maxGroup)).status = .readyToPush
  · simp only [hready, ne_eq, not_true, if_false]
    refine ⟨?_, ?_⟩
    · show Function.update s.syncBuf _ { s.syncBuf _ with status := .pushed } = _
      rw [hbuf]
      rfl
    · show some (PushToController.mk req (i + 1) _) = _
      rw [Traced.val_bind, Traced.val_bind, Traced.val_pure, List.map_append]
      rfl
  · simp only [hready, ne_eq, not_false_eq_true, if_true]
    exact ⟨rfl, rfl⟩

variable (cfg ead txBuffers) in
/-- The first turns, made one after the other by `Ap.step`. -/
lemma run_fillBufTurn (hw : s.fillBuf = some ⟨req, 0, []⟩) {k : ℕ} (hk : k ≤ req.count.toNat) :
    ∃ s', TransitionSystem.run (Ap.step cfg ead) s (List.replicate k .fillBufTurn) = some s'
      ∧ s'.syncBuf = (pushTurns cfg txBuffers req.start s.syncBuf k).val.1
      ∧ s'.fillBuf = some ⟨req, k,
          (pushTurns cfg txBuffers req.start s.syncBuf k).val.2.map (·.entry)⟩ := by
  induction k with
  | zero => exact ⟨s, rfl, rfl, hw⟩
  | succ k ih =>
      obtain ⟨s', hrun, hbuf, hfill⟩ := ih (Nat.le_of_succ_le hk)
      have hstep : Ap.step cfg ead s' .fillBufTurn = some (s'.fillBufTurn cfg
          ⟨req, k, (pushTurns cfg txBuffers req.start s.syncBuf k).val.2.map (·.entry)⟩) := by
        simp only [Ap.step, hfill]
        rw [if_pos (show k < req.count.toNat from hk)]
      obtain ⟨hbuf', hfill'⟩ := fillBufTurn_eq cfg txBuffers req hbuf k
      refine ⟨_, ?_, hbuf', hfill'⟩
      rw [List.replicate_succ', TransitionSystem.run_append, hrun, Option.bind_some,
        TransitionSystem.run_cons, hstep]
      rfl

lemma step_setSubeventData {w : PushToController} (hfill : s.fillBuf = some w)
    (hw : w.request.count.toNat ≤ w.i) (accepted : Bool) :
    Ap.step cfg ead s (.setSubeventData accepted) = some (s.setSubeventData ead w accepted) := by
  simp only [Ap.step, hfill, if_neg (Nat.not_lt.mpr hw)]

variable (ead req) in
/-- The end of the call keeps the marks, or undoes them. -/
lemma syncBuf_setSubeventData {x : (ℕ → SyncBuffer) × List SubeventDataParams}
    (hbuf : s.syncBuf = x.1) (n : ℕ) (accepted : Bool) :
    (s.setSubeventData ead ⟨req, n, x.2.map (·.entry)⟩ accepted).syncBuf
      = if accepted then x.1 else undoTurns x.1 x.2 := by
  cases accepted with
  | true => exact hbuf
  | false =>
      have hgroups : (x.2.map (·.entry)).map Prod.fst = x.2.map (·.subevent) := by
        rw [List.map_map]
        rfl
      simp only [Ap.setSubeventData, Ap.restore, undoTurns_eq, hgroups, hbuf, Bool.false_eq_true,
        if_false]

lemma syncBuf_eslCPushSyncToController (cfg : ApConfig) (txBuffers : ℕ)
    (setSubeventData : List SubeventDataParams → ℤ) (groupId count : UInt8)
    (syncBuf : ℕ → SyncBuffer) :
    let x := (pushTurns cfg txBuffers groupId syncBuf count.toNat).val
    let r := (eslCPushSyncToController cfg txBuffers setSubeventData groupId count syncBuf).val
    r.syncBuf = if r.err = 0 then x.1 else undoTurns x.1 x.2 := by
  simp only [eslCPushSyncToController, Traced.val_bind, Traced.val_ite, Traced.val_pure]
  generalize (pushTurns cfg txBuffers groupId syncBuf count.toNat).val = x
  by_cases hsome : 0 < x.2.length
  · by_cases hfail : setSubeventData x.2 = 0
    · simp only [hsome, hfail, ne_eq, not_true, if_true, if_false]
    · simp only [hsome, hfail, ne_eq, not_false_eq_true, if_true, if_false]
  · simp only [hsome, if_true, if_false]

/-- **Refinement.**  The call is the fill work of `Ap.step` when no other party gets in between. -/
theorem run_eslCPushSyncToController (cfg : ApConfig) (ead : Ead) (txBuffers : ℕ)
    (hpending : s.fillBufPending = true) (hidle : s.fillBuf = none)
    (setSubeventData : List SubeventDataParams → ℤ) :
    let r := (eslCPushSyncToController cfg txBuffers setSubeventData s.fillBufInfo.start
      s.fillBufInfo.count s.syncBuf).val
    ∃ s', TransitionSystem.run (Ap.step cfg ead) s
        (.fillBufWork :: List.replicate s.fillBufInfo.count.toNat .fillBufTurn
          ++ [.setSubeventData (r.err = 0)]) = some s'
      ∧ s'.syncBuf = r.syncBuf := by
  intro r
  have hstart : Ap.step cfg ead s .fillBufWork = some { s with
      fillBufPending := false, fillBuf := some ⟨s.fillBufInfo, 0, []⟩ } := by
    simp only [Ap.step, hpending, hidle, and_self, if_true]
  obtain ⟨s', hrun, hbuf, hfill⟩ := run_fillBufTurn cfg ead txBuffers (s := { s with
    fillBufPending := false, fillBuf := some ⟨s.fillBufInfo, 0, []⟩ }) rfl (Nat.le_refl _)
  have hleft := syncBuf_setSubeventData ead s.fillBufInfo hbuf s.fillBufInfo.count.toNat (r.err = 0)
  have hcall := syncBuf_eslCPushSyncToController cfg txBuffers setSubeventData s.fillBufInfo.start
    s.fillBufInfo.count s.syncBuf
  refine ⟨_, ?_, hleft.trans ?_⟩
  · rw [List.cons_append, TransitionSystem.run_cons, hstart, Option.bind_some,
      TransitionSystem.run_append, hrun, Option.bind_some, TransitionSystem.run_cons,
      step_setSubeventData hfill (Nat.le_refl _)]
    rfl
  · simp only [decide_eq_true_eq]
    exact hcall.symm

end Run

/-- **Subevent data push.**  A call for no more subevents than the controller has buffers meets its
contract, from every state of the sync buffers. -/
theorem pushesReady (cfg : ApConfig) {txBuffers : ℕ}
    (setSubeventData : List SubeventDataParams → ℤ) (groupId : UInt8) {count : UInt8}
    (hcount : count.toNat ≤ txBuffers) (syncBuf : ℕ → SyncBuffer) :
    PushesReady cfg setSubeventData groupId count syncBuf
      (eslCPushSyncToController cfg txBuffers setSubeventData groupId count syncBuf) := by
  have hval := val_eslCPushSyncToController cfg txBuffers groupId count syncBuf setSubeventData
  by_cases hempty : readyGroups cfg groupId count syncBuf = []
  · rw [if_pos hempty] at hval
    refine ⟨?_, ?_, fun _ => ?_, fun herr => ?_,
      fun hlen => safe_eslCPushSyncToController setSubeventData hlen hcount⟩
    · rw [hval, if_pos hempty]
    · rw [hval]
      rfl
    · rw [hval]
      funext g
      rw [hempty, if_neg List.not_mem_nil]
    · rw [hval]
  · rw [if_neg hempty] at hval
    by_cases hfail : setSubeventData (readyParams cfg groupId count syncBuf) ≠ 0
    · rw [if_pos hfail] at hval
      refine ⟨?_, ?_, fun herr => ?_, fun _ => ?_,
        fun hlen => safe_eslCPushSyncToController setSubeventData hlen hcount⟩
      · rw [hval, if_neg hempty]
        rfl
      · rw [hval]
        rfl
      · rw [hval] at herr
        exact absurd herr hfail
      · rw [hval]
    · rw [if_neg hfail] at hval
      refine ⟨?_, ?_, fun _ => ?_, fun herr => ?_,
        fun hlen => safe_eslCPushSyncToController setSubeventData hlen hcount⟩
      · rw [hval, if_neg hempty]
        rfl
      · rw [hval]
        rfl
      · rw [hval]
        rfl
      · rw [hval] at herr
        exact absurd herr hfail

/-- An access point with two groups. -/
def twoGroups : ApConfig := { ApConfig.default with maxGroup := 2, maxGroup_mem := by decide }

/-- Both groups are ready, and three subevents are asked for: the third visit finds the first group
pushed. -/
theorem pushesReady_twoGroups :
    PushesReady twoGroups (fun _ => 0) 0 3
      (fun _ => { SyncBuffer.zero with dataLen := 20, status := .readyToPush })
      (eslCPushSyncToController twoGroups 3 (fun _ => 0) 0 3
        fun _ => { SyncBuffer.zero with dataLen := 20, status := .readyToPush }) :=
  pushesReady twoGroups (fun _ => 0) 0 (by decide) _

end NrfEsl
