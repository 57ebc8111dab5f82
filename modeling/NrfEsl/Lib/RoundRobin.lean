import Mathlib.Order.Interval.Set.Defs
import Mathlib.Data.Set.Function

/-!
# Allocating values in turn

An allocator hands out `h 0`, `h 1`, … from a pool of `n` values, the first `n` of them all different.
Some values may be taken from the start.  The allocator is **fresh** when it repeats a value, or hands
out a taken one, only after the whole pool is used up.

It never looks at what is taken, so this asks for the taken values to lie where it arrives last:
`fresh_iff`.
-/

namespace RoundRobin

variable {α : Type*} (h : ℕ → α) (n : ℕ) (taken : α → Prop)

/-- What is taken or has been handed out before the `k`-th time. -/
def Used (k : ℕ) (a : α) : Prop := taken a ∨ ∃ j < k, h j = a

/-- A used value is handed out only when the pool is used up. -/
def Fresh : Prop := ∀ k, Used h taken k (h k) → ∀ r < n, Used h taken k (h r)

/-- Behind a taken value the round meets taken values only. -/
def TakenLast : Prop := ∀ r r', r < r' → r' < n → taken (h r) → taken (h r')

variable {h n taken}

/-- In the first round no value is used by having been handed out. -/
lemma used_iff_taken (hinj : Set.InjOn h (Set.Iio n)) {k r : ℕ} (hkr : k ≤ r) (hr : r < n) :
    Used h taken k (h r) ↔ taken (h r) := by
  constructor
  · rintro (ht | ⟨j, hj, hjr⟩)
    · exact ht
    · have heq : j = r := hinj (show j < n by omega) (show r < n from hr) hjr
      omega
  · exact Or.inl

/-- **Going round is fresh exactly when the taken values come last.** -/
theorem fresh_iff (hinj : Set.InjOn h (Set.Iio n)) :
    Fresh h n taken ↔ TakenLast h n taken := by
  constructor
  · intro hfresh r r' hrr' hr' htaken
    have hall := hfresh r (Or.inl htaken) r' hr'
    exact (used_iff_taken hinj hrr'.le hr').mp hall
  · intro hlast k hused r hr
    by_cases hrk : r < k
    · exact Or.inr ⟨r, hrk, rfl⟩
    -- still in the first round, so the value at hand is a taken one
    have hkr : k ≤ r := Nat.le_of_not_lt hrk
    have htaken : taken (h k) := (used_iff_taken hinj le_rfl (show k < n by omega)).mp hused
    rcases Nat.lt_or_ge k r with hlt | hge
    · exact Or.inl (hlast k r hlt hr htaken)
    · have heq : r = k := Nat.le_antisymm hge hkr
      exact Or.inl (heq ▸ htaken)

end RoundRobin
