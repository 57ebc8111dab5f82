import Mathlib.Logic.Function.Basic

/-!
# Two partial maps kept as inverses of each other

An index is often stored twice, once by each of its keys: `f` from `α` to `β` and `g` back.  They
are `InverseMaps` when every pair is in both or in neither.

A program that enters or deletes one pair writes both maps at once.  **The rule** is
`InverseMaps.update_iff`: the maps stay inverse exactly when neither side was linked to another
partner before (`Linkable`).  A pair that is in the maps already is always linkable.
-/

/-- Every pair is in both maps or in neither. -/
def InverseMaps {α β : Type*} (f : α → Option β) (g : β → Option α) : Prop :=
  ∀ a b, f a = some b ↔ g b = some a

namespace InverseMaps

variable {α β : Type*} {f : α → Option β} {g : β → Option α} {a : α} {b : β}

/-- Neither `a` nor `b` is linked to anything but the other. -/
def Linkable (f : α → Option β) (g : β → Option α) (a : α) (b : β) : Prop :=
  (f a = none ∨ f a = some b) ∧ (g b = none ∨ g b = some a)

instance [DecidableEq α] [DecidableEq β] : Decidable (Linkable f g a b) :=
  inferInstanceAs (Decidable ((f a = none ∨ f a = some b) ∧ (g b = none ∨ g b = some a)))

lemma symm (h : InverseMaps f g) : InverseMaps g f := fun b a => (h a b).symm

lemma Linkable.symm (h : Linkable f g a b) : Linkable g f b a := ⟨h.2, h.1⟩

lemma linkable (h : InverseMaps f g) (hab : f a = some b) : Linkable f g a b :=
  ⟨Or.inr hab, Or.inr ((h a b).mp hab)⟩

/-- What is written for a partner: the pair is entered, or it is deleted. -/
def entry (enter : Bool) (x : α) : Option α := if enter then some x else none

lemma entry_eq_some {enter : Bool} {x y : α} :
    entry enter x = some y ↔ enter = true ∧ x = y := by
  cases enter <;> simp [entry]

variable {enter : Bool}

/-- Between an unlinked `a` and any other partner nothing changes. -/
lemma update_self_iff_of_ne (h : InverseMaps f g) (hfa : f a = none ∨ f a = some b) {b' : β}
    (hb : b' ≠ b) : entry enter b = some b' ↔ g b' = some a := by
  rw [entry_eq_some, ← h a b']
  constructor
  · intro hb'
    exact absurd hb'.2.symm hb
  · intro hb'
    rcases hfa with hfa | hfa
    · rw [hfa] at hb'
      cases hb'
    · rw [hfa] at hb'
      exact absurd (Option.some.inj hb').symm hb

variable [DecidableEq α] [DecidableEq β]

/-- What `a` is linked to still points back after another pair is written. -/
lemma linked_of_update (h : InverseMaps f g)
    (hupd : InverseMaps (Function.update f a (entry enter b))
      (Function.update g b (entry enter a))) :
    f a = none ∨ f a = some b := by
  rcases hfa : f a with _ | b'
  · exact Or.inl rfl
  by_cases hb : b' = b
  · exact Or.inr (hb ▸ rfl)
  -- the partner's entry is untouched, so the new maps would have to link `a` to it
  have hback : Function.update g b (entry enter a) b' = some a := by
    rw [Function.update_of_ne hb]
    exact (h a b').mp hfa
  have hnew := (hupd a b').mpr hback
  rw [Function.update_self, entry_eq_some] at hnew
  exact absurd hnew.2.symm hb

/-- **Writing one pair**, or deleting it, in both maps keeps them inverse exactly when neither side
is linked to another partner. -/
theorem update_iff (h : InverseMaps f g) :
    InverseMaps (Function.update f a (entry enter b)) (Function.update g b (entry enter a))
      ↔ Linkable f g a b := by
  constructor
  · intro hupd
    exact ⟨h.linked_of_update hupd, h.symm.linked_of_update hupd.symm⟩
  rintro ⟨hfa, hgb⟩ a' b'
  by_cases ha : a' = a
  · subst ha
    rw [Function.update_self]
    by_cases hb : b' = b
    · subst hb
      rw [Function.update_self, entry_eq_some, entry_eq_some]
      simp
    · rw [Function.update_of_ne hb]
      exact h.update_self_iff_of_ne hfa hb
  · rw [Function.update_of_ne ha]
    by_cases hb : b' = b
    · subst hb
      rw [Function.update_self]
      exact (h.symm.update_self_iff_of_ne hgb ha).symm
    · rw [Function.update_of_ne hb]
      exact h a' b'

end InverseMaps
