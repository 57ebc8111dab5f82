import Mathlib.Logic.Function.Basic

/-!
# Lifecycles of many keys in one log

A log records actions of many keys (connections, threads, files) as they happen.  What one key may do,
and in which order, is a partial step function `next` on stages: `none` says that the action is out of
order.  `stages` replays a log and gives the stage of every key; once a key has acted out of order its
stage is lost for good.

* `stages_concat` — one more action moves its own key and no other.
* `only` — all keys at rest but one.  A program that serves one key at a time is described by it:
  `stages_of_rest` says how a key begins, `stages_only` how it goes on and `stages_rest` how it ends.
-/

namespace Lifecycle

variable {κ σ α : Type*} [DecidableEq κ] (next : σ → α → Option σ) (rest : σ)

/-- One action. -/
def advance (stages : κ → Option σ) (k : κ) (a : α) : κ → Option σ :=
  Function.update stages k ((stages k).bind fun x => next x a)

/-- The stage of every key after a log. -/
def stages (log : List (κ × α)) : κ → Option σ :=
  log.foldl (fun st entry => advance next st entry.1 entry.2) fun _ => some rest

/-- All keys at rest but one. -/
def only (k : κ) (x : σ) : κ → Option σ := Function.update (fun _ => some rest) k (some x)

variable {next rest} {log : List (κ × α)} {k k' : κ} {a : α} {x y : σ}

lemma stages_concat :
    stages next rest (log ++ [(k, a)]) = advance next (stages next rest log) k a := by
  rw [stages, List.foldl_append]
  rfl

@[simp] lemma only_self : only rest k x k = some x := Function.update_self ..

lemma only_of_ne (h : k' ≠ k) : only rest k x k' = some rest := Function.update_of_ne h ..

/-- All keys at rest. -/
lemma only_rest : only rest k rest = fun _ => some rest := Function.update_eq_self ..

lemma advance_only (h : next x a = some y) : advance next (only rest k x) k a = only rest k y := by
  rw [advance, only_self, Option.bind_some, h, only, Function.update_idem]
  rfl

/-- The key that is not at rest acts. -/
lemma stages_only (hlog : stages next rest log = only rest k x) (h : next x a = some y) :
    stages next rest (log ++ [(k, a)]) = only rest k y := by
  rw [stages_concat, hlog]
  exact advance_only h

/-- It goes to rest. -/
lemma stages_rest (hlog : stages next rest log = only rest k x) (h : next x a = some rest) :
    stages next rest (log ++ [(k, a)]) = fun _ => some rest := by
  rw [stages_only hlog h]
  exact only_rest

/-- A key acts when all are at rest. -/
lemma stages_of_rest (hlog : stages next rest log = fun _ => some rest) (h : next rest a = some y) :
    stages next rest (log ++ [(k, a)]) = only rest k y :=
  stages_only (hlog.trans only_rest.symm) h

lemma isSome_only : (only rest k x k').isSome := by
  by_cases h : k' = k
  · rw [h, only_self]
    rfl
  · rw [only_of_ne h]
    rfl

end Lifecycle
