import Mathlib.Data.List.Nodup
import NrfEsl.Ap.ScannedTags
import NrfEsl.Lib.TransitionSystem

/-!
# Count and look-ups of the scanned-tag list

**The count.**  `esl_c_scanned_tag_remove_with_ble_addr` unlinks a node and leaves `scanned_count` as it
is, where `esl_c_scanned_tag_remove` subtracts one.

**The index.**  In `esl_c_get_tag_addr` the address comparison is the `else` of the index comparison, so a
search by index compares every node before the wanted one with the NULL address, and an index that is
equal to the count passes the range check (`comparedNull_search`).  A search by address is right in
every state (`eslCGetTagAddr_addr`).

So the list is in order along a run, and every look-up right, exactly when the run removes no listed
address and uses no index of a non-empty list but 0 (`inOrder_iff`).
-/

namespace NrfEsl

open TransitionSystem

namespace ScannedTags

/-- No address twice, and the count is the number of nodes. -/
structure InOrder (s : ScannedTags) : Prop where
  nodup : (s.nodes.map TagAddrNode.addr).Nodup
  count : s.scannedCount.toNat = s.nodes.length

/-- The node an index names. -/
def nodeAt (tagIdx : ℤ) (s : ScannedTags) : Option ℕ :=
  if 0 ≤ tagIdx ∧ tagIdx < s.scannedCount.toNat then some tagIdx.toNat else none

/-- The node of an address. -/
def nodeOf (peerAddr : BtAddrLe) (s : ScannedTags) : Option ℕ :=
  s.nodes.findIdx? fun cur => decide (peerAddr = cur.addr)

/-- The look-up an event makes returns the node it asks for, without comparing with the NULL
address. -/
def LooksUp (atNull : BtAddrLe) (s : ScannedTags) : ScanEvent → Prop
  | .add _ _ => True
  | .remove tagIdx =>
      tagIdx ≠ -1 → s.eslCGetTagAddr atNull tagIdx none = ⟨s.nodeAt tagIdx, false⟩
  | .lookUp tagIdx => s.eslCGetTagAddr atNull tagIdx none = ⟨s.nodeAt tagIdx, false⟩
  | .removeWithBleAddr peerAddr | .lookUpAddr peerAddr | .connected peerAddr =>
      s.eslCGetTagAddr atNull (-1) (some peerAddr) = ⟨s.nodeOf peerAddr, false⟩

/-- An index that is found or refused before the first comparison of addresses. -/
def AtHead (tagIdx : ℤ) (s : ScannedTags) : Prop :=
  s.nodes = [] ∨ tagIdx = 0 ∨ (s.scannedCount.toNat : ℤ) < tagIdx

/-- An added tag still fits the count, a tag removed by address is not listed, and an index is
`AtHead`. -/
def Harmless (s : ScannedTags) : ScanEvent → Prop
  | .add addr allocated =>
      addr ∈ s.nodes.map TagAddrNode.addr ∨ allocated = false ∨ s.nodes.length < 65535
  | .removeWithBleAddr peerAddr => peerAddr ∉ s.nodes.map TagAddrNode.addr
  | .remove tagIdx => tagIdx = -1 ∨ s.AtHead tagIdx
  | .lookUp tagIdx => s.AtHead tagIdx
  | .lookUpAddr _ | .connected _ => True

/-! ## The look-up -/

variable {atNull : BtAddrLe} {s : ScannedTags}

/-- Index -1 is no position, so the search goes by the address alone. -/
lemma search_addr (peerAddr : BtAddrLe) (nodes : List TagAddrNode) (idx : ℕ) :
    search atNull (-1) (some peerAddr) nodes idx
      = ⟨(nodes.findIdx? fun cur => decide (peerAddr = cur.addr)).map (· + idx), false⟩ := by
  induction nodes generalizing idx with
  | nil => rfl
  | cons cur next ih =>
      have hidx : (idx : ℤ) ≠ -1 := by omega
      rw [search, if_neg hidx, List.findIdx?_cons, Option.getD_some, ih]
      by_cases h : peerAddr = cur.addr
      · simp [h]
      · rw [if_neg h, decide_eq_false h]
        cases next.findIdx? fun cur => decide (peerAddr = cur.addr) with
        | none => rfl
        | some i => simp [Nat.add_comm, Nat.add_left_comm]

/-- A look-up by address returns the first node that has it, in every state. -/
lemma eslCGetTagAddr_addr (peerAddr : BtAddrLe) :
    s.eslCGetTagAddr atNull (-1) (some peerAddr) = ⟨s.nodeOf peerAddr, false⟩ := by
  have hidx : ¬(-1 : ℤ) > s.scannedCount.toNat := by omega
  rw [eslCGetTagAddr, if_neg hidx, search_addr, nodeOf]
  simp

/-- A search by index compares with the NULL address unless the first node is the one it wants. -/
lemma comparedNull_search {tagIdx : ℤ} {nodes : List TagAddrNode} {idx : ℕ} :
    (search atNull tagIdx none nodes idx).comparedNull = false ↔ nodes = [] ∨ tagIdx = idx := by
  cases nodes with
  | nil => simp [search]
  | cons cur next =>
      rw [search]
      split_ifs with h h'
      · simp [h]
      · simp [Ne.symm h]
      · simp [Ne.symm h]

/-- A look-up by index is right exactly at the head of the list or out of its range. -/
lemma eslCGetTagAddr_idx (hs : s.InOrder) {tagIdx : ℤ} :
    s.eslCGetTagAddr atNull tagIdx none = ⟨s.nodeAt tagIdx, false⟩ ↔ s.AtHead tagIdx := by
  have hcount := hs.count
  by_cases hgt : (s.scannedCount.toNat : ℤ) < tagIdx
  · have hnone : s.nodeAt tagIdx = none := if_neg fun h => by omega
    rw [eslCGetTagAddr, if_pos hgt, hnone]
    exact iff_of_true rfl (.inr (.inr hgt))
  · rw [eslCGetTagAddr, if_neg hgt]
    constructor
    · intro h
      have hnull : (search atNull tagIdx none s.nodes 0).comparedNull = false := by rw [h]
      rcases comparedNull_search.mp hnull with hnil | hzero
      · exact .inl hnil
      · exact .inr (.inl hzero)
    · rintro (hnil | rfl | hgt')
      · have hnone : s.nodeAt tagIdx = none := if_neg fun h => by simp [hcount, hnil] at h; omega
        rw [hnil, hnone]
        rfl
      · cases hnodes : s.nodes with
        | nil => simp [search, nodeAt, hcount, hnodes]
        | cons cur next => simp [search, nodeAt, hcount, hnodes]
      · exact absurd hgt' hgt

lemma nodeOf_eq_none {peerAddr : BtAddrLe} :
    s.nodeOf peerAddr = none ↔ peerAddr ∉ s.nodes.map TagAddrNode.addr := by
  simp only [nodeOf, List.findIdx?_eq_none_iff, decide_eq_false_iff_not, List.mem_map, not_exists,
    not_and]
  exact forall_congr' fun cur => forall_congr' fun _ => ne_comm

lemma lt_of_nodeOf {peerAddr : BtAddrLe} {idx : ℕ} (h : s.nodeOf peerAddr = some idx) :
    idx < s.nodes.length := by
  obtain ⟨hlt, -⟩ := List.findIdx?_eq_some_iff_getElem.mp h
  exact hlt

/-! ## What the operations do to the list -/

lemma eslCScannedTagAdd_of_mem {addr : BtAddrLe} (allocated : Bool)
    (h : addr ∈ s.nodes.map TagAddrNode.addr) : s.eslCScannedTagAdd addr allocated = (0, s) := by
  obtain ⟨cur, hcur, rfl⟩ := List.mem_map.mp h
  exact if_pos (List.any_eq_true.mpr ⟨cur, hcur, decide_eq_true rfl⟩)

lemma eslCScannedTagAdd_of_not_mem {addr : BtAddrLe} (h : addr ∉ s.nodes.map TagAddrNode.addr) :
    (s.eslCScannedTagAdd addr true).2 = ⟨s.nodes ++ [⟨addr, false⟩], s.scannedCount + 1⟩ := by
  have hany : ¬(s.nodes.any fun cur => decide (addr = cur.addr)) = true := by
    rw [List.any_eq_true]
    rintro ⟨cur, hcur, heq⟩
    exact h (List.mem_map.mpr ⟨cur, hcur, (of_decide_eq_true heq).symm⟩)
  rw [eslCScannedTagAdd, if_neg hany]
  rfl

/-- A new tag keeps the list in order as long as the count does not wrap. -/
lemma inOrder_add (hs : s.InOrder) (addr : BtAddrLe) (allocated : Bool) :
    (s.eslCScannedTagAdd addr allocated).2.InOrder ↔ s.Harmless (.add addr allocated) := by
  by_cases hmem : addr ∈ s.nodes.map TagAddrNode.addr
  · rw [eslCScannedTagAdd_of_mem allocated hmem]
    exact iff_of_true hs (.inl hmem)
  cases allocated with
  | false =>
      have hsame : (s.eslCScannedTagAdd addr false).2 = s := by
        rw [eslCScannedTagAdd]
        split_ifs with hany hallocated
        · rfl
        · rfl
        · exact absurd rfl hallocated
      rw [hsame]
      exact iff_of_true hs (.inr (.inl rfl))
  | true =>
      have hcount := hs.count
      have hlt := s.scannedCount.toNat_lt
      rw [eslCScannedTagAdd_of_not_mem hmem]
      constructor
      · intro h
        have hsucc := h.count
        simp only [UInt16.toNat_add, UInt16.toNat_one, List.length_append, List.length_singleton]
          at hsucc
        exact .inr (.inr (by omega))
      · rintro (hmem' | hfalse | hfits)
        · exact absurd hmem' hmem
        · cases hfalse
        · refine ⟨?_, ?_⟩
          · rw [List.map_append]
            exact hs.nodup.append (List.nodup_singleton _) (by simpa using hmem)
          · simp only [UInt16.toNat_add, UInt16.toNat_one, List.length_append, List.length_singleton]
            omega

/-- Removing a node and counting it out keeps the list in order. -/
lemma inOrder_eraseIdx (hs : s.InOrder) {idx : ℕ} (h : idx < s.nodes.length) :
    InOrder ⟨s.nodes.eraseIdx idx, s.scannedCount - 1⟩ := by
  have hcount := hs.count
  refine ⟨?_, ?_⟩
  · have hsub := (List.eraseIdx_sublist s.nodes idx).map TagAddrNode.addr
    exact hs.nodup.sublist hsub
  · have hle : (1 : UInt16) ≤ s.scannedCount := by
      rw [UInt16.le_iff_toNat_le, UInt16.toNat_one]
      omega
    rw [UInt16.toNat_sub_of_le _ _ hle, UInt16.toNat_one, List.length_eraseIdx_of_lt h, hcount]

/-- Removing a node without counting it out does not. -/
lemma not_inOrder_eraseIdx (hs : s.InOrder) {idx : ℕ} (h : idx < s.nodes.length) :
    ¬InOrder { s with nodes := s.nodes.eraseIdx idx } := by
  intro h'
  have hcount := hs.count
  have hcount' := h'.count
  rw [List.length_eraseIdx_of_lt h] at hcount'
  simp only at hcount'
  omega

lemma inOrder_removeWithBleAddr (hs : s.InOrder) (peerAddr : BtAddrLe) :
    (s.eslCScannedTagRemoveWithBleAddr atNull peerAddr).2.InOrder
      ↔ s.Harmless (.removeWithBleAddr peerAddr) := by
  rw [eslCScannedTagRemoveWithBleAddr, eslCGetTagAddr_addr, Harmless, ← nodeOf_eq_none]
  cases hnode : s.nodeOf peerAddr with
  | none => exact iff_of_true hs rfl
  | some idx => exact iff_of_false (not_inOrder_eraseIdx hs (lt_of_nodeOf hnode)) (by simp)

lemma inOrder_remove (hs : s.InOrder) {tagIdx : ℤ} (h : s.Harmless (.remove tagIdx)) :
    (s.eslCScannedTagRemove atNull tagIdx).2.InOrder := by
  rw [eslCScannedTagRemove]
  split_ifs with hall
  · exact ⟨List.nodup_nil, rfl⟩
  · have hlook : s.eslCGetTagAddr atNull tagIdx none = ⟨s.nodeAt tagIdx, false⟩ :=
      (eslCGetTagAddr_idx hs).mpr (h.resolve_left hall)
    rw [hlook]
    cases hnode : s.nodeAt tagIdx with
    | none => exact hs
    | some idx =>
        refine inOrder_eraseIdx hs ?_
        have hcount := hs.count
        rw [nodeAt] at hnode
        split_ifs at hnode with hrange
        cases hnode
        omega

/-- The flag of a node is no part of the order. -/
lemma inOrder_setConnected (hs : s.InOrder) (peerAddr : BtAddrLe) :
    (s.setConnected atNull peerAddr).InOrder := by
  rw [setConnected]
  split
  · exact hs
  · rename_i idx _
    refine ⟨?_, by simpa using hs.count⟩
    have hmap : (s.nodes.modify idx fun tag => { tag with connected := true }).map TagAddrNode.addr
        = s.nodes.map TagAddrNode.addr := by
      apply List.ext_getElem?
      intro i
      rw [List.getElem?_map, List.getElem?_map, List.getElem?_modify]
      cases s.nodes[i]? with
      | none => rfl
      | some tag => split_ifs <;> rfl
    rw [hmap]
    exact hs.nodup

/-! ## Runs -/

lemma inOrder_init : init.InOrder := ⟨List.nodup_nil, rfl⟩

/-- A harmless event keeps the list in order. -/
lemma inOrder_step (hs : s.InOrder) {e : ScanEvent} (h : s.Harmless e) {s' : ScannedTags}
    (hstep : s.step atNull e = some s') : s'.InOrder := by
  cases e with
  | add addr allocated =>
      cases hstep
      exact (inOrder_add hs addr allocated).mpr h
  | removeWithBleAddr peerAddr =>
      cases hstep
      exact (inOrder_removeWithBleAddr hs peerAddr).mpr h
  | remove tagIdx =>
      cases hstep
      exact inOrder_remove hs h
  | lookUp tagIdx | lookUpAddr peerAddr =>
      cases hstep
      exact hs
  | connected peerAddr =>
      cases hstep
      exact inOrder_setConnected hs peerAddr

/-- In a list in order the look-up of a harmless event is right. -/
lemma looksUp_of_harmless (hs : s.InOrder) {e : ScanEvent} (h : s.Harmless e) :
    s.LooksUp atNull e := by
  cases e with
  | add addr allocated => trivial
  | remove tagIdx => exact fun hall => (eslCGetTagAddr_idx hs).mpr (h.resolve_left hall)
  | lookUp tagIdx => exact (eslCGetTagAddr_idx hs).mpr h
  | removeWithBleAddr peerAddr | lookUpAddr peerAddr | connected peerAddr =>
      exact eslCGetTagAddr_addr peerAddr

/-- An event that is not harmless makes a wrong look-up or leaves a list that is not in order. -/
lemma harmless_of_inOrder (hs : s.InOrder) {e : ScanEvent} {s' : ScannedTags}
    (hstep : s.step atNull e = some s') (hlook : s.LooksUp atNull e) (hs' : s'.InOrder) :
    s.Harmless e := by
  cases e with
  | add addr allocated =>
      cases hstep
      exact (inOrder_add hs addr allocated).mp hs'
  | removeWithBleAddr peerAddr =>
      cases hstep
      exact (inOrder_removeWithBleAddr hs peerAddr).mp hs'
  | remove tagIdx =>
      by_cases hall : tagIdx = -1
      · exact .inl hall
      · exact .inr ((eslCGetTagAddr_idx hs).mp (hlook hall))
  | lookUp tagIdx => exact (eslCGetTagAddr_idx hs).mp hlook
  | lookUpAddr peerAddr => trivial
  | connected peerAddr => trivial

/-- The list stays in order and every look-up is right exactly along the runs whose events are
harmless. -/
theorem inOrder_iff (atNull : BtAddrLe) (es : List ScanEvent) :
    AlongRun (step atNull) InOrder init es ∧ StepsMeet (step atNull) (LooksUp atNull) init es
      ↔ StepsMeet (step atNull) Harmless init es := by
  refine alongRun_and_stepsMeet_iff (I := InOrder) (fun _ hs => hs) ?_ ?_ ?_ inOrder_init
  · intro s e s' hs h hstep
    exact inOrder_step hs h hstep
  · intro s e s' hs h _
    exact looksUp_of_harmless hs h
  · intro s e s' hs hstep hlook hs'
    exact harmless_of_inOrder hs hstep hlook hs'

/-- The tags of the runs below. -/
def tagA : BtAddrLe := ⟨0, #v[1, 0, 0, 0, 0, 0]⟩
def tagB : BtAddrLe := ⟨0, #v[2, 0, 0, 0, 0, 0]⟩

/-- A tag that connects and disconnects stays in the count, and the second of two tags is not found
without comparing the first with the NULL address. -/
theorem not_inOrder :
    ¬AlongRun (step ⟨0, #v[0, 0, 0, 0, 0, 0]⟩) InOrder init
        [.add tagA true, .connected tagA, .removeWithBleAddr tagA]
      ∧ ¬StepsMeet (step ⟨0, #v[0, 0, 0, 0, 0, 0]⟩) (LooksUp ⟨0, #v[0, 0, 0, 0, 0, 0]⟩) init
        [.add tagA true, .add tagB true, .lookUp 1] := by
  constructor
  · intro h
    have hlast : InOrder ⟨[], 1⟩ := h.last rfl
    exact absurd hlast.count (by decide)
  · intro h
    obtain ⟨-, h⟩ := h _ rfl
    obtain ⟨-, h⟩ := h _ rfl
    obtain ⟨hlook, -⟩ := h _ rfl
    have hnull : true = false := congrArg TagLookUp.comparedNull hlook
    exact absurd hnull (by decide)

end ScannedTags

end NrfEsl
