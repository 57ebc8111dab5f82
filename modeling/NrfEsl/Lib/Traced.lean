import Mathlib.Order.Basic

/-!
# Memory accesses as a trace

C checks neither the bounds of a copy nor the wrap of a length subtraction.  A computation here
returns its value **together with the accesses it made**, in program order: copies into a
destination of known size, uses of an array element, subtractions of lengths.  `Access.Safe`
says when one of them stays inside what it touches, `Traced.Safe` that all of them do.

The value of a computation with an unsafe access is what the copies would have produced with
room enough; the C program promises nothing there.
-/

/-- One access of a computation that C performs without a check. -/
inductive Access
  /-- `len` bytes copied to offset `off` of a destination of `size` bytes. -/
  | write (size off len : ℕ)
  /-- Element `i` of an array of `size` elements. -/
  | index (size i : ℕ)
  /-- The unsigned subtraction `a - b` of two lengths. -/
  | sub (a b : ℕ)
  deriving DecidableEq, Repr

/-- The access stays inside its destination, its array, or above zero. -/
def Access.Safe : Access → Prop
  | .write size off len => off + len ≤ size
  | .index size i => i < size
  | .sub a b => b ≤ a

instance : DecidablePred Access.Safe := fun a => by
  cases a <;> unfold Access.Safe <;> infer_instance

/-- The access reads or writes memory. -/
def Access.Touches : Access → Prop
  | .write _ _ _ | .index _ _ => True
  | .sub _ _ => False

/-- A value and the accesses made while computing it. -/
structure Traced (α : Type) where
  val : α
  accesses : List Access := []

namespace Traced

variable {α β : Type}

instance : Monad Traced where
  pure a := ⟨a, []⟩
  bind x f := ⟨(f x.val).val, x.accesses ++ (f x.val).accesses⟩

/-- Record one access. -/
def access (a : Access) : Traced Unit := ⟨(), [a]⟩

/-- Every access of the computation is safe. -/
def Safe (x : Traced α) : Prop := ∀ a ∈ x.accesses, a.Safe

instance (x : Traced α) : Decidable x.Safe :=
  inferInstanceAs (Decidable (∀ a ∈ x.accesses, a.Safe))

@[simp] lemma val_pure (a : α) : (pure a : Traced α).val = a := rfl

@[simp] lemma val_bind (x : Traced α) (f : α → Traced β) : (x >>= f).val = (f x.val).val := rfl

@[simp] lemma accesses_pure (a : α) : (pure a : Traced α).accesses = [] := rfl

@[simp] lemma accesses_bind (x : Traced α) (f : α → Traced β) :
    (x >>= f).accesses = x.accesses ++ (f x.val).accesses := rfl

@[simp] lemma accesses_access (a : Access) : (access a).accesses = [a] := rfl

@[simp] lemma safe_pure (a : α) : (pure a : Traced α).Safe := by
  intro b hb
  cases hb

/-- A sequence is safe when both parts are. -/
@[simp] lemma safe_bind (x : Traced α) (f : α → Traced β) :
    (x >>= f).Safe ↔ x.Safe ∧ (f x.val).Safe := by
  simp only [Safe, bind, List.mem_append]
  constructor
  · intro h
    exact ⟨fun a ha => h a (.inl ha), fun a ha => h a (.inr ha)⟩
  · rintro ⟨h₁, h₂⟩ a (ha | ha)
    · exact h₁ a ha
    · exact h₂ a ha

@[simp] lemma safe_access (a : Access) : (access a).Safe ↔ a.Safe := by
  simp [Safe, access]

/-- Safety of a conditional is safety of the branch taken. -/
@[simp] lemma safe_ite (p : Prop) [Decidable p] (x y : Traced α) :
    (if p then x else y).Safe ↔ if p then x.Safe else y.Safe := by
  by_cases h : p <;> simp [h]

@[simp] lemma val_ite (p : Prop) [Decidable p] (x y : Traced α) :
    (if p then x else y).val = if p then x.val else y.val := by
  by_cases h : p <;> simp [h]

@[simp] lemma accesses_ite (p : Prop) [Decidable p] (x y : Traced α) :
    (if p then x else y).accesses = if p then x.accesses else y.accesses := by
  by_cases h : p <;> simp [h]

/-- The accesses to memory stay inside what they touch.  A length that wraps around touches nothing
by itself. -/
def InBounds (x : Traced α) : Prop := ∀ a ∈ x.accesses, a.Touches → a.Safe

@[simp] lemma inBounds_pure (a : α) : (pure a : Traced α).InBounds := by
  intro b hb
  cases hb

@[simp] lemma inBounds_bind (x : Traced α) (f : α → Traced β) :
    (x >>= f).InBounds ↔ x.InBounds ∧ (f x.val).InBounds := by
  simp only [InBounds, bind, List.forall_mem_append]

@[simp] lemma inBounds_access (a : Access) : (access a).InBounds ↔ (a.Touches → a.Safe) := by
  simp only [InBounds, access, List.forall_mem_singleton]

end Traced
