import Mathlib.Logic.ExistsUnique
import Mathlib.Data.Nat.Notation
import Mathlib.Order.Basic
import Mathlib.Algebra.Order.Ring.Int

/-!
# Once in every window

Something happens at some of the steps `0`, `1`, `2`, …, and a window is a number of steps in a row.
`OncePer p N` says that it happens exactly once in every window of `N` steps.

* **Counting modulo `N`** does that for every residue: `oncePer_mod`.
* **There is no other way**: what happens at step 0 happens exactly at the multiples of `N`
  (`OncePer.iff_dvd`).  So a sequence that comes back to its first value after `m` steps, and has this
  value once in every window of `N`, has an `N` that divides `m`.
-/

namespace Windows

/-- Exactly once in every window of `N` steps. -/
def OncePer (p : ℕ → Prop) (N : ℕ) : Prop := ∀ i, ∃! k, i ≤ k ∧ k < i + N ∧ p k

variable {p : ℕ → Prop} {N : ℕ}

lemma OncePer.pos (h : OncePer p N) : 0 < N := by
  obtain ⟨k, ⟨hle, hlt, -⟩, -⟩ := h 0
  omega

/-- Two steps of one window are the same. -/
lemma OncePer.eq_of_window (h : OncePer p N) {i j k : ℕ} (hj : i ≤ j) (hj' : j < i + N) (hk : i ≤ k)
    (hk' : k < i + N) (hpj : p j) (hpk : p k) : j = k := by
  obtain ⟨m, -, honly⟩ := h i
  rw [honly j ⟨hj, hj', hpj⟩, honly k ⟨hk, hk', hpk⟩]

/-- One window later it happens again. -/
lemma OncePer.add (h : OncePer p N) {k : ℕ} (hk : p k) : p (k + N) := by
  obtain ⟨m, ⟨hle, hlt, hm⟩, -⟩ := h (k + 1)
  have hlast : m = k + N := by
    by_contra hne
    have hsame := h.eq_of_window (Nat.le_refl k) (by omega) (by omega) (by omega) hk hm
    omega
  rw [← hlast]
  exact hm

/-- **At the multiples**, and nowhere else. -/
theorem OncePer.iff_dvd (h : OncePer p N) (h0 : p 0) (k : ℕ) : p k ↔ N ∣ k := by
  have hmul : ∀ q, p (N * q) := by
    intro q
    induction q with
    | zero => exact h0
    | succ q ih => exact h.add ih
  constructor
  · intro hk
    have hpos := h.pos
    have hlt := Nat.mod_lt k hpos
    have hsplit := Nat.div_add_mod k N
    have hsame := h.eq_of_window (Nat.le_refl (N * (k / N))) (by omega) (by omega) (by omega)
      (hmul (k / N)) hk
    exact ⟨k / N, hsame.symm⟩
  · rintro ⟨q, rfl⟩
    exact hmul q

/-- **Counting modulo `N`** meets every residue once in a window. -/
theorem oncePer_mod {r : ℕ} (hr : r < N) : OncePer (fun k => k % N = r) N := by
  intro i
  have hpos : 0 < N := by omega
  -- the first step from `i` on that has the residue
  refine ⟨i + (N + r - i % N) % N, ⟨Nat.le_add_right _ _, ?_, ?_⟩, ?_⟩
  · have hlt := Nat.mod_lt (N + r - i % N) hpos
    omega
  · have hi := Nat.mod_lt i hpos
    show (i + (N + r - i % N) % N) % N = r
    rw [Nat.add_mod_mod]
    have hsplit := Nat.div_add_mod i N
    have hsum : i + (N + r - i % N) = r + N * (i / N + 1) := by
      rw [Nat.mul_add, Nat.mul_one]
      omega
    rw [hsum, Nat.add_mul_mod_self_left, Nat.mod_eq_of_lt hr]
  · rintro k ⟨hle, hlt, hk⟩
    have hi := Nat.mod_lt i hpos
    have hsplit := Nat.div_add_mod i N
    have hsplitK := Nat.div_add_mod k N
    obtain ⟨d, rfl⟩ := Nat.exists_eq_add_of_le hle
    have hd : d < N := by omega
    have hmod : (i % N + d) % N = r := by
      rw [Nat.mod_add_mod]
      exact hk
    rcases Nat.lt_or_ge (i % N + d) N with hsmall | hlarge
    · rw [Nat.mod_eq_of_lt hsmall] at hmod
      have hval : N + r - i % N = d + N := by omega
      rw [hval, Nat.add_mod_right, Nat.mod_eq_of_lt hd]
    · rw [Nat.mod_eq_sub_mod hlarge, Nat.mod_eq_of_lt (by omega)] at hmod
      have hval : N + r - i % N = d := by omega
      rw [hval, Nat.mod_eq_of_lt hd]

end Windows
