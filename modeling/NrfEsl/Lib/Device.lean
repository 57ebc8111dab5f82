import Mathlib.Data.Nat.Notation
import Mathlib.Logic.Basic

/-!
# Devices behind an interface

A program that is verified often rests on one that is not: a file system, a flash driver.  What is
known of it is its documentation, which says what every call does to the part of its state that a
caller can observe.

* `Interface` — the calls, their answers, the observable state and, for every call, what it does
  there when it works (`ref`) and which answers and effects are **allowed** at all, failures
  included.
* `Device I` — some implementation: its state, what can be observed of it, and calls that are all
  allowed.
* `Device.Reliable` — no call fails unless the reference does: the device *is* the reference, as
  far as one can observe.

`Device.ofRef` is the reference itself.  A result for every device is a result for every pattern of
failures.
-/

/-- Calls, answers and observable state, with the documented behaviour. -/
structure Interface where
  Call : Type
  Res : Call → Type
  View : Type
  /-- The call when it works. -/
  ref : ∀ c, View → Res c × View
  /-- `Allowed c v r v'`: from `v` the call may answer `r` and leave `v'`. -/
  Allowed : ∀ c, View → Res c → View → Prop
  ref_allowed : ∀ c v, Allowed c v (ref c v).1 (ref c v).2

/-- An implementation of an interface. -/
structure Device (I : Interface) where
  Volume : Type
  view : Volume → I.View
  perform : ∀ c, Volume → I.Res c × Volume
  allowed : ∀ c v, I.Allowed c (view v) (perform c v).1 (view (perform c v).2)

namespace Device

variable {I : Interface}

/-- The reference as a device. -/
def ofRef (I : Interface) : Device I where
  Volume := I.View
  view := id
  perform := I.ref
  allowed := I.ref_allowed

/-- Calls fail only where the reference does. -/
def Reliable (D : Device I) : Prop :=
  ∀ c v, I.ref c (D.view v) = ((D.perform c v).1, D.view (D.perform c v).2)

lemma ofRef_reliable (I : Interface) : (ofRef I).Reliable := fun _ _ => rfl

end Device
