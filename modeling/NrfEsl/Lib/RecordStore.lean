import Mathlib.Data.List.Basic
import Mathlib.Logic.Function.Basic
import NrfEsl.Lib.Device

/-!
# A store of records

Records are byte sequences under ids, each written, read from its start and deleted as a whole.  A
record without bytes and no record are the same, and writing what is already there writes nothing
and answers 0.  A failing call changes at most the record it is about.
-/

namespace RecordStore

/-- The records that exist. -/
abbrev View (Id : Type) := Id → Option (List UInt8)

inductive Call (Id : Type)
  | write (id : Id) (data : List UInt8)
  | read (id : Id) (len : ℕ)
  | delete (id : Id)

/-- A status, with the bytes read. -/
@[reducible] def Call.Res {Id : Type} : Call Id → Type
  | read _ _ => Int × List UInt8
  | _ => Int

variable {Id : Type} [DecidableEq Id]

/-- The calls when they work. -/
def ref : (c : Call Id) → View Id → c.Res × View Id
  | .write id data, v =>
      if data = [] then (0, Function.update v id none)
      else if v id = some data then (0, v)
      else (data.length, Function.update v id (some data))
  | .read id len, v =>
      match v id with
      | none => ((-2, []), v)
      | some data => (((data.take len).length, data.take len), v)
  | .delete id, v => (0, Function.update v id none)

/-- The record a call may change. -/
def target : Call Id → Option Id
  | .write id _ | .delete id => some id
  | .read _ _ => none

/-- The bytes a call delivers. -/
def delivered : (c : Call Id) → c.Res → List UInt8
  | .read _ _, r => r.2
  | .write _ _, _ | .delete _, _ => []

/-- What a call may do besides working. -/
structure Failed (c : Call Id) (v : View Id) (r : c.Res) (v' : View Id) : Prop where
  contents : ∀ id, target c ≠ some id → v' id = v id
  delivered : delivered c r <+: delivered c (ref c v).1

/-- The store as an interface. -/
def interface (Id : Type) [DecidableEq Id] : Interface where
  Call := Call Id
  Res := Call.Res
  View := View Id
  ref := ref
  Allowed c v r v' := ref c v = (r, v') ∨ Failed c v r v'
  ref_allowed _ _ := .inl rfl

/-- The records after a write. -/
lemma ref_write (id : Id) (data : List UInt8) (v : View Id) :
    (ref (.write id data) v).2 = Function.update v id (if data = [] then none else some data) := by
  simp only [ref]
  by_cases hnil : data = []
  · rw [if_pos hnil, if_pos hnil]
  · rw [if_neg hnil, if_neg hnil]
    by_cases hsame : v id = some data
    · rw [if_pos hsame, ← hsame, Function.update_eq_self]
    · rw [if_neg hsame]

lemma zero_le_ref_write (id : Id) (data : List UInt8) (v : View Id) :
    0 ≤ (ref (.write id data) v).1 := by
  simp only [ref]
  split
  · exact Int.le_refl 0
  · split
    · exact Int.le_refl 0
    · exact Int.natCast_nonneg _

end RecordStore
