import Mathlib.Data.Nat.ModEq
import Mathlib.Logic.Function.Basic
import Mathlib.Order.Basic

/-!
# Sweeping over cells, some of them more than once

A loop visits cells in some order.  A cell that is ready is collected with its contents, and marked, so
that a second visit does not find it ready any more.  `sweep_eq` says what the loop leaves: the cells
that were visited and ready are marked, and they are collected **once each, in the order of their first
visit**.

Of particular interest is a loop around a ring (`firsts_ring`).
-/

namespace Sweep

variable {ι σ : Type} [DecidableEq ι]

/-- The cells of the first visits, without repetitions. -/
def firsts (pos : ℕ → ι) : ℕ → List ι
  | 0 => []
  | k + 1 => if pos k ∈ firsts pos k then firsts pos k else firsts pos k ++ [pos k]

section Firsts

variable {pos : ℕ → ι} {k : ℕ} {i : ι}

lemma mem_firsts : i ∈ firsts pos k ↔ ∃ j < k, pos j = i := by
  induction k with
  | zero => simp [firsts]
  | succ k ih =>
      have hstep : i ∈ firsts pos (k + 1) ↔ i ∈ firsts pos k ∨ i = pos k := by
        rw [firsts]
        split
        · rename_i hmem
          exact ⟨.inl, fun h => h.elim id fun heq => heq ▸ hmem⟩
        · rw [List.mem_append, List.mem_singleton]
      rw [hstep, ih]
      constructor
      · rintro (⟨j, hj, heq⟩ | heq)
        · exact ⟨j, Nat.lt_succ_of_lt hj, heq⟩
        · exact ⟨k, k.lt_succ_self, heq.symm⟩
      · rintro ⟨j, hj, heq⟩
        rcases Nat.lt_succ_iff_lt_or_eq.mp hj with hlt | rfl
        · exact .inl ⟨j, hlt, heq⟩
        · exact .inr heq.symm

/-- There are no more of them than visits. -/
lemma length_firsts_le : (firsts pos k).length ≤ k := by
  induction k with
  | zero => exact Nat.le_refl 0
  | succ k ih =>
      rw [firsts]
      split
      · exact Nat.le_succ_of_le ih
      · rw [List.length_append]
        exact Nat.succ_le_succ ih

end Firsts

/-! ## Around a ring -/

/-- The cells of a ring of `n` from `start` on. -/
def ring (start n i : ℕ) : ℕ := (start + i) % n

lemma ring_inj {start n i j : ℕ} (hi : i < n) (hj : j < n) (h : ring start n i = ring start n j) :
    i = j := by
  have hmod : Nat.ModEq n i j := Nat.ModEq.add_left_cancel' start h
  rw [Nat.ModEq, Nat.mod_eq_of_lt hi, Nat.mod_eq_of_lt hj] at hmod
  exact hmod

/-- The first time round every cell is new, and after that none is. -/
lemma firsts_ring (start : ℕ) {n : ℕ} (hn : 0 < n) (k : ℕ) :
    firsts (ring start n) k = (List.range (min k n)).map (ring start n) := by
  induction k with
  | zero => rw [Nat.zero_min]; rfl
  | succ k ih =>
      rw [firsts, ih]
      rcases Nat.lt_or_ge k n with hlt | hge
      · rw [Nat.min_eq_left hlt.le, Nat.min_eq_left (Nat.succ_le_of_lt hlt), List.range_succ,
          List.map_append, List.map_singleton, if_neg]
        intro hmem
        obtain ⟨j, hj, heq⟩ := List.mem_map.mp hmem
        have hjk := List.mem_range.mp hj
        exact absurd (ring_inj (hjk.trans hlt) hlt heq) hjk.ne
      · rw [Nat.min_eq_right hge, Nat.min_eq_right (Nat.le_succ_of_le hge), if_pos]
        have hlt := Nat.mod_lt k hn
        refine List.mem_map.mpr ⟨k % n, List.mem_range.mpr hlt, ?_⟩
        rw [ring, ring, Nat.add_mod_mod]

/-! ## The loop -/

variable (ready : σ → Prop) [DecidablePred ready] (mark : σ → σ)

/-- One visit: a ready cell is collected and marked. -/
def visit (i : ι) (s : (ι → σ) × List (ι × σ)) : (ι → σ) × List (ι × σ) :=
  if ready (s.1 i) then (Function.update s.1 i (mark (s.1 i)), s.2 ++ [(i, s.1 i)]) else s

/-- The cells and what is collected, after the first visits. -/
def sweep (pos : ℕ → ι) (cells : ι → σ) : ℕ → (ι → σ) × List (ι × σ)
  | 0 => (cells, [])
  | k + 1 => visit ready mark (pos k) (sweep pos cells k)

/-- The cells collected by the first visits. -/
def collected (pos : ℕ → ι) (cells : ι → σ) (k : ℕ) : List ι :=
  (firsts pos k).filter fun i => ready (cells i)

variable {ready mark} {pos : ℕ → ι} {cells : ι → σ}

lemma mem_collected {k : ℕ} {i : ι} :
    i ∈ collected ready pos cells k ↔ i ∈ firsts pos k ∧ ready (cells i) := by
  rw [collected, List.mem_filter, decide_eq_true_iff]

lemma length_collected_le (k : ℕ) : (collected ready pos cells k).length ≤ k :=
  (List.length_filter_le _ _).trans length_firsts_le

/-- One more visit collects its cell when it is new and ready. -/
lemma collected_succ (k : ℕ) : collected ready pos cells (k + 1)
    = if pos k ∉ firsts pos k ∧ ready (cells (pos k)) then collected ready pos cells k ++ [pos k]
      else collected ready pos cells k := by
  rw [collected, firsts]
  by_cases hmem : pos k ∈ firsts pos k
  · rw [if_pos hmem, if_neg fun h => h.1 hmem]
    rfl
  · rw [if_neg hmem, List.filter_append]
    by_cases hready : ready (cells (pos k))
    · have hlast : [pos k].filter (fun i => ready (cells i)) = [pos k] := by simp [hready]
      rw [if_pos ⟨hmem, hready⟩, hlast]
      rfl
    · have hlast : [pos k].filter (fun i => ready (cells i)) = [] := by simp [hready]
      rw [if_neg fun h => hready h.2, hlast, List.append_nil]
      rfl

/-- **What the loop leaves.** -/
theorem sweep_eq (hmark : ∀ x, ¬ ready (mark x)) (k : ℕ) :
    sweep ready mark pos cells k
      = (fun i => if i ∈ collected ready pos cells k then mark (cells i) else cells i,
        (collected ready pos cells k).map fun i => (i, cells i)) := by
  induction k with
  | zero =>
      refine Prod.ext ?_ rfl
      funext i
      show cells i = if i ∈ [] then mark (cells i) else cells i
      rw [if_neg List.not_mem_nil]
  | succ k ih =>
      rw [sweep, ih, visit, collected_succ]
      by_cases hmem : pos k ∈ collected ready pos cells k
      · -- A second visit finds the mark.
        have hfirst := (mem_collected.mp hmem).1
        simp only [if_pos hmem, if_neg (hmark _), hfirst, not_true, false_and, if_false]
      · simp only [if_neg hmem]
        by_cases hready : ready (cells (pos k))
        · have hfirst : pos k ∉ firsts pos k := fun h => hmem (mem_collected.mpr ⟨h, hready⟩)
          simp only [hfirst, not_false_eq_true, true_and, hready, if_true]
          refine Prod.ext ?_ ?_
          · funext i
            simp only [Function.update_apply]
            by_cases heq : i = pos k
            · subst heq
              rw [if_pos rfl, if_pos (List.mem_append_right _ (List.mem_singleton_self _))]
            · rw [if_neg heq]
              simp only [List.mem_append, List.mem_singleton, heq, or_false]
          · rw [List.map_append]
            rfl
        · simp only [hready, and_false, if_false]

end Sweep
