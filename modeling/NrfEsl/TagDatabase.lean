import NrfEsl.Ap.TagStorage
import NrfEsl.Lib.InverseMaps
import NrfEsl.Lib.TransitionSystem

/-!
# The two directories of the tag database

The database is `Consistent` when its directories are inverse maps: the file of ESL address `a`
names Bluetooth address `b` exactly when the file of `b` holds `a`.

**A save writes two files and deletes none.**  A tag that is saved under a new ESL address leaves
the file of its old one behind, and a tag that takes over an address leaves the file of the tag that
had it.  **A removal by Bluetooth address** of a tag that is not stored unlinks the file of ESL
address 0xFFFF.  Nothing else breaks the database: it stays consistent along a run exactly when every
step keeps to `OwnPair` (`consistent_iff`).
-/

namespace NrfEsl

open TransitionSystem KeyValueStore InverseMaps

namespace TagStorage

/-- The Bluetooth address the file of an ESL address names. -/
def named (s : TagStorage) (eslAddr : UInt16) : Option BtAddr :=
  (s.esl.lookup eslAddr).map fun file => file.bleAddr.a

/-- The ESL address the file of a Bluetooth address holds. -/
def held (s : TagStorage) (bleAddr : BtAddr) : Option UInt16 :=
  (s.ble.lookup bleAddr).map fun file => file.eslAddr

/-- The directories are inverse maps. -/
def Consistent (s : TagStorage) : Prop := ∀ a b, s.named a = some b ↔ s.held b = some a

end TagStorage

/-- The calls that change the database. -/
inductive StorageCall
  | save (tag : EslChrcData)
  | remove (eslAddr : UInt16) (peerAddr : Option BtAddrLe)
  | removeAll

namespace TagStorage

variable (B : Enumeration BtAddr BleFile) (E : Enumeration UInt16 EslFile)

def step (s : TagStorage) : StorageCall → Option TagStorage
  | .save tag => some (s.saveTagInStorage tag)
  | .remove eslAddr peerAddr => some (s.removeTagInStorage eslAddr peerAddr)
  | .removeAll => some (s.removeAllTagsInStorage B E)

/-- A save is of a tag that is not stored under another ESL address, under an address that is not
another tag's; so is a removal that is given both addresses.  A removal by Bluetooth address alone is
of a stored tag, unless there is no file 0xFFFF. -/
def OwnPair (s : TagStorage) : StorageCall → Prop
  | .save tag => Linkable s.named s.held tag.eslAddr tag.bleAddr.a
  | .remove eslAddr (some peerAddr) =>
      if eslAddr = 0xFFFF then s.held peerAddr.a ≠ none ∨ s.named 0xFFFF = none
      else Linkable s.named s.held eslAddr peerAddr.a
  | .remove _ none | .removeAll => True

instance (s : TagStorage) : DecidablePred s.OwnPair
  | .save tag => inferInstanceAs (Decidable (Linkable s.named s.held tag.eslAddr tag.bleAddr.a))
  | .remove eslAddr (some peerAddr) =>
      inferInstanceAs (Decidable (if eslAddr = 0xFFFF then
        s.held peerAddr.a ≠ none ∨ s.named 0xFFFF = none
      else Linkable s.named s.held eslAddr peerAddr.a))
  | .remove _ none | .removeAll => inferInstanceAs (Decidable True)

/-! ## What the calls do to the two maps -/

variable {B E} {s : TagStorage}

lemma named_saveTagInStorage (tag : EslChrcData) :
    (s.saveTagInStorage tag).named
      = Function.update s.named tag.eslAddr (entry true tag.bleAddr.a) := by
  funext a
  by_cases ha : a = tag.eslAddr
  · subst ha
    rw [Function.update_self, named, saveTagInStorage, AList.lookup_insert]
    rfl
  · rw [Function.update_of_ne ha, named, saveTagInStorage, AList.lookup_insert_ne ha]
    rfl

lemma held_saveTagInStorage (tag : EslChrcData) :
    (s.saveTagInStorage tag).held
      = Function.update s.held tag.bleAddr.a (entry true tag.eslAddr) := by
  funext b
  by_cases hb : b = tag.bleAddr.a
  · subst hb
    rw [Function.update_self, held, saveTagInStorage, AList.lookup_insert]
    rfl
  · rw [Function.update_of_ne hb, held, saveTagInStorage, AList.lookup_insert_ne hb]
    rfl

lemma named_unlink (bleAddr : BtAddrLe) (eslAddr : UInt16) :
    (s.unlink bleAddr eslAddr).named
      = Function.update s.named eslAddr (entry false bleAddr.a) := by
  funext a
  by_cases ha : a = eslAddr
  · subst ha
    rw [Function.update_self, named, unlink, AList.lookup_erase]
    rfl
  · rw [Function.update_of_ne ha, named, unlink, AList.lookup_erase_ne ha]
    rfl

lemma held_unlink (bleAddr : BtAddrLe) (eslAddr : UInt16) :
    (s.unlink bleAddr eslAddr).held
      = Function.update s.held bleAddr.a (entry false eslAddr) := by
  funext b
  by_cases hb : b = bleAddr.a
  · subst hb
    rw [Function.update_self, held, unlink, AList.lookup_erase]
    rfl
  · rw [Function.update_of_ne hb, held, unlink, AList.lookup_erase_ne hb]
    rfl

/-- Unlinking everything that is listed leaves nothing. -/
lemma lookup_eraseAll {κ ν : Type*} [DecidableEq κ] (D : Enumeration κ ν) (dir : KeyValueStore κ ν)
    (k : κ) : (D.load (fun dir name _ => dir.erase name) dir dir).lookup k = none := by
  have hload : (D.load (fun dir name _ => dir.erase name) dir dir).lookup k
      = (dir.lookup k).elim (dir.lookup k) fun _ => none :=
    D.load_component (AList.lookup k) k (fun _ _ => none)
      (fun x k' v hk => AList.lookup_erase_ne hk.symm) (fun x v => AList.lookup_erase k x) dir dir
  rw [hload]
  rcases dir.lookup k with _ | v
  · rfl
  · rfl

/-! ## When a call keeps the database consistent -/

lemma consistent_saveTagInStorage_iff (h : s.Consistent) (tag : EslChrcData) :
    (s.saveTagInStorage tag).Consistent
      ↔ Linkable s.named s.held tag.eslAddr tag.bleAddr.a := by
  have hmaps : InverseMaps s.named s.held := h
  rw [← hmaps.update_iff, Consistent, named_saveTagInStorage, held_saveTagInStorage]
  rfl

lemma consistent_unlink_iff (h : s.Consistent) (bleAddr : BtAddrLe) (eslAddr : UInt16) :
    (s.unlink bleAddr eslAddr).Consistent ↔ Linkable s.named s.held eslAddr bleAddr.a := by
  have hmaps : InverseMaps s.named s.held := h
  rw [← hmaps.update_iff, Consistent, named_unlink, held_unlink]
  rfl

/-- The address found for a stored tag is its own; for any other tag it is 0xFFFF. -/
lemma linkable_removedEslAddr_iff (h : s.Consistent) (peerAddr : BtAddrLe) :
    Linkable s.named s.held (s.removedEslAddr 0xFFFF peerAddr) peerAddr.a
      ↔ s.held peerAddr.a ≠ none ∨ s.named 0xFFFF = none := by
  have hmaps : InverseMaps s.named s.held := h
  have hfind : s.findTagInStorageWithBleAddr peerAddr = s.held peerAddr.a := rfl
  rw [removedEslAddr, if_pos rfl, hfind]
  rcases hheld : s.held peerAddr.a with _ | a
  · have hnot : s.named 0xFFFF ≠ some peerAddr.a := by
      intro hnamed
      rw [(h _ _).mp hnamed] at hheld
      cases hheld
    simp [Linkable, hheld, hnot]
  · have hlinked := hmaps.symm.linkable hheld
    exact iff_of_true hlinked.symm (Or.inl (by simp))

lemma consistent_removeTagInStorage_iff (h : s.Consistent) (eslAddr : UInt16)
    (peerAddr : Option BtAddrLe) :
    (s.removeTagInStorage eslAddr peerAddr).Consistent ↔ s.OwnPair (.remove eslAddr peerAddr) := by
  rcases peerAddr with _ | peerAddr
  · -- by ESL address: the pair is looked up, or nothing is removed
    refine iff_of_true ?_ trivial
    rw [removeTagInStorage]
    rcases hfind : s.findTagInStorageWithEslAddr eslAddr with _ | bleAddr
    · exact h
    · have hnamed : s.named eslAddr = some bleAddr.a := by
        have hmap := congrArg (Option.map BtAddrLe.a) hfind
        rwa [findTagInStorageWithEslAddr, Option.map_map] at hmap
      exact (consistent_unlink_iff h _ _).mpr (InverseMaps.linkable h hnamed)
  · rw [removeTagInStorage, consistent_unlink_iff h, OwnPair]
    by_cases ha : eslAddr = 0xFFFF
    · subst ha
      rw [if_pos rfl, linkable_removedEslAddr_iff h]
    · rw [removedEslAddr, if_neg ha, if_neg ha]

lemma consistent_removeAllTagsInStorage : (s.removeAllTagsInStorage B E).Consistent := by
  intro a b
  rw [named, held, removeAllTagsInStorage, lookup_eraseAll, lookup_eraseAll]
  simp

/-- One call. -/
lemma consistent_step_iff {s' : TagStorage} {call : StorageCall} (h : s.Consistent)
    (hstep : s.step B E call = some s') : s'.Consistent ↔ s.OwnPair call := by
  cases call with
  | save tag =>
      cases hstep
      exact consistent_saveTagInStorage_iff h tag
  | remove eslAddr peerAddr =>
      cases hstep
      exact consistent_removeTagInStorage_iff h eslAddr peerAddr
  | removeAll =>
      cases hstep
      exact iff_of_true consistent_removeAllTagsInStorage trivial

/-- **The directories are inverse maps throughout a run exactly when its calls keep to
`OwnPair`.** -/
theorem consistent_iff (B : Enumeration BtAddr BleFile) (E : Enumeration UInt16 EslFile)
    {s : TagStorage} {calls : List StorageCall} (h : s.Consistent) :
    AlongRun (step B E) Consistent s calls ↔ StepsMeet (step B E) OwnPair s calls :=
  alongRun_iff_stepsMeet (fun _ hs => hs)
    (fun _ _ _ hs hG hstep => (consistent_step_iff hs hstep).mpr hG)
    (fun _ _ _ hs hstep hs' => (consistent_step_iff hs hstep).mp hs') h

lemma consistent_empty : empty.Consistent := by
  intro a b
  rw [named, held, empty, AList.lookup_empty, AList.lookup_empty]
  simp

/-- A tag with the given addresses. -/
def tagAt (bleAddr : BtAddr) (eslAddr : UInt16) : EslChrcData where
  bleAddr := ⟨0, bleAddr⟩
  eslAddr := eslAddr
  eslRspKey := .zero
  pnpVid := 0
  pnpPid := 0
  connectFrom := .fromScan
  pastNeeded := false

/-- A tag that is removed before it gets a new address. -/
theorem consistent_reassigned : AlongRun (step (.stored _ _) (.stored _ _)) Consistent empty
    [.save (tagAt (Vector.replicate 6 1) 1), .remove 1 none,
      .save (tagAt (Vector.replicate 6 1) 2)] :=
  (consistent_iff _ _ consistent_empty).mpr (by decide)

/-- A tag that gets a new address without it: the file of its old address still names it. -/
theorem consistent_fails : ¬ ∀ calls : List StorageCall,
    AlongRun (step (.stored _ _) (.stored _ _)) Consistent empty calls := by
  intro h
  have hrun := h [.save (tagAt (Vector.replicate 6 1) 1), .save (tagAt (Vector.replicate 6 1) 2)]
  have hlast : Consistent ((empty.saveTagInStorage (tagAt (Vector.replicate 6 1) 1)).saveTagInStorage
      (tagAt (Vector.replicate 6 1) 2)) := hrun.last rfl
  have hheld := (hlast 1 (Vector.replicate 6 1)).mp (by decide)
  revert hheld
  decide

end TagStorage

end NrfEsl
