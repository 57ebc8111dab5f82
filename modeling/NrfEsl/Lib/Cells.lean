import NrfEsl.Lib.Memory

/-!
# Memory that may not have been written

A local array of C holds indeterminate values until something is stored in it.  `Cells α` is such
an array: `none` is a cell that nothing has written.  Copying an indeterminate cell leaves an
indeterminate cell.

* `Cells.write`, `Cells.overlay`, `Cells.copy` — stores, what a callee stores, `memcpy`.
* `Cells.Written` — the first cells have all been written.
* `Cells.Agrees` — a memory that has the written values, and anything else in the other cells.
-/

/-- An array whose unwritten cells are `none`. -/
abbrev Cells (α : Type*) := ℕ → Option α

namespace Cells

variable {α : Type*} (c w : Cells α)

/-- An array nothing has been stored in. -/
def unset : Cells α := fun _ => none

/-- Store values at an offset. -/
def write (off : ℕ) (xs : List α) : Cells α :=
  fun i => if off ≤ i ∧ i < off + xs.length then xs[i - off]? else c i

/-- Store whatever `w` has written. -/
def overlay : Cells α := fun i => (w i).or (c i)

/-- `memcpy` of `len` cells to an offset, written or not. -/
def copy (off : ℕ) (len : ℕ) : Cells α := fun i => if off ≤ i ∧ i < off + len then w (i - off) else c i

/-- The first `len` cells. -/
def read (len : ℕ) : List (Option α) := (List.range len).map c

/-- The first `len` cells have been written. -/
def Written (len : ℕ) : Prop := ∀ i < len, (c i).isSome = true

instance (len : ℕ) : Decidable (c.Written len) := Nat.decidableBallLT len _

/-- The memory has the values of all written cells. -/
def Agrees (m : ℕ → α) : Prop := ∀ i x, c i = some x → m i = x

variable {c w}

/-- What a memory shows of written cells is what was written. -/
lemma Agrees.read {m : ℕ → α} (h : c.Agrees m) {len : ℕ} (hw : c.Written len) :
    ((List.range len).map m).map some = c.read len := by
  rw [List.map_map]
  refine List.map_congr_left fun i hi => ?_
  obtain ⟨x, hx⟩ := Option.isSome_iff_exists.mp (hw i (List.mem_range.mp hi))
  simp [hx, h i x hx]

lemma write_of_lt {off i : ℕ} (xs : List α) (h : i < off) : c.write off xs i = c i := by
  rw [write, if_neg (by omega)]

lemma write_of_mem {off i : ℕ} {xs : List α} (h : i < xs.length) :
    c.write off xs (off + i) = some xs[i] := by
  rw [write, if_pos (by omega), Nat.add_sub_cancel_left, List.getElem?_eq_getElem h]

/-- A store right behind the first cells. -/
lemma Written.write {off : ℕ} (h : c.Written off) (xs : List α) :
    (c.write off xs).Written (off + xs.length) := by
  intro i hi
  by_cases hlt : i < off
  · rw [write_of_lt xs hlt]
    exact h i hlt
  · obtain ⟨k, rfl⟩ := Nat.exists_eq_add_of_le (Nat.le_of_not_lt hlt)
    rw [write_of_mem (by omega)]
    rfl

lemma copy_of_lt {off len i : ℕ} (h : i < off) : c.copy w off len i = c i := by
  rw [copy, if_neg (by omega)]

/-- A copy right behind the first cells writes what its source has written. -/
lemma written_copy_iff {off len : ℕ} (h : c.Written off) :
    (c.copy w off len).Written (off + len) ↔ w.Written len := by
  have hcopied : ∀ k < len, c.copy w off len (off + k) = w k := by
    intro k hk
    rw [copy, if_pos (by omega), Nat.add_sub_cancel_left]
  constructor
  · intro hw k hk
    rw [← hcopied k hk]
    exact hw _ (by omega)
  · intro hw i hi
    by_cases hlt : i < off
    · rw [copy_of_lt hlt]
      exact h i hlt
    · obtain ⟨k, rfl⟩ := Nat.exists_eq_add_of_le (Nat.le_of_not_lt hlt)
      rw [hcopied k (by omega)]
      exact hw k (by omega)

end Cells
