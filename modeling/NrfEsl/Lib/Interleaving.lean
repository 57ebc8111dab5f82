import NrfEsl.Lib.Program

/-!
# Threads on a shared state

A `Pool` is a shared state and, for every thread, what is left of the program it runs.  `start` gives
a program to a thread that has none left, and `turn` lets a thread perform its next action; the
threads may take turns in any order, so the runs of a pool are all interleavings of the actions.

A thread is followed through a run with `Program.Under`: its own turns are `Under.step`, the turns of
the others are interference (`Under.of_rel`).  `start_eq_some` and `turn_eq_some` say what a step can
do, and `turn_map` carries a step over to another state space.
-/

namespace Program

/-- A shared state, and the threads with the rest of their programs. -/
structure Pool {A : Type} (R : A → Type) (I S : Type) where
  shared : S
  thread : I → Program R Unit

/-- Nothing is left to do. -/
def isDone {A α : Type} {R : A → Type} : Program R α → Bool
  | .done _ => true
  | .act _ _ => false

/-- The next action, if there is one left, meets a condition. -/
def Next {A α : Type} {R : A → Type} (P : A → Prop) : Program R α → Prop
  | .done _ => True
  | .act a _ => P a

instance {A α : Type} {R : A → Type} (P : A → Prop) [DecidablePred P] (p : Program R α) :
    Decidable (p.Next P) :=
  match p with
  | .done _ => isTrue trivial
  | .act a _ => inferInstanceAs (Decidable (P a))

namespace Pool

variable {A I S T : Type} {R : A → Type} [DecidableEq I]

/-- A thread that has nothing left to do starts a program. -/
def start (i : I) (prog : Program R Unit) (p : Pool R I S) : Option (Pool R I S) :=
  if (p.thread i).isDone then some { p with thread := Function.update p.thread i prog } else none

/-- A thread performs its next action. -/
def turn (sem : ∀ a, S → R a × S) (i : I) (p : Pool R I S) : Option (Pool R I S) :=
  match p.thread i with
  | .done _ => none
  | .act a next =>
      some ⟨(sem a p.shared).2, Function.update p.thread i (next (sem a p.shared).1)⟩

/-- The pool with another shared state. -/
def map (φ : S → T) (p : Pool R I S) : Pool R I T := ⟨φ p.shared, p.thread⟩

variable {i : I} {prog : Program R Unit} {p q : Pool R I S} {sem : ∀ a, S → R a × S}

/-- What starting a program does. -/
lemma start_eq_some (h : start i prog p = some q) :
    p.thread i = .done () ∧ q.shared = p.shared ∧ q.thread i = prog
      ∧ ∀ j ≠ i, q.thread j = p.thread j := by
  rw [start, Option.ite_none_right_eq_some] at h
  obtain ⟨hdone, hq⟩ := h
  cases hq
  refine ⟨?_, rfl, Function.update_self _ _ _, fun j hj => Function.update_of_ne hj _ _⟩
  cases hthread : p.thread i with
  | done x => rfl
  | act a next =>
      rw [hthread] at hdone
      cases hdone

/-- What a turn does. -/
lemma turn_eq_some (h : turn sem i p = some q) :
    ∃ a next, p.thread i = .act a next ∧ q.shared = (sem a p.shared).2
      ∧ q.thread i = next (sem a p.shared).1 ∧ ∀ j ≠ i, q.thread j = p.thread j := by
  rw [turn] at h
  cases hthread : p.thread i with
  | done x =>
      rw [hthread] at h
      cases h
  | act a next =>
      rw [hthread] at h
      cases h
      exact ⟨a, next, rfl, rfl, Function.update_self _ _ _, fun j hj => Function.update_of_ne hj _ _⟩

/-- Starting a program does not look at the shared state. -/
lemma start_map (φ : S → T) : start i prog (p.map φ) = (start i prog p).map (map φ) := by
  by_cases hdone : (p.thread i).isDone = true
  · simp only [start, map, hdone, if_true, Option.map_some]
  · simp only [start, map, hdone]
    rfl

/-- Nor does a turn see more of it than a map of it that the meanings of the actions respect. -/
lemma turn_map {sem' : ∀ a, T → R a × T} {φ : S → T}
    (h : ∀ a s, sem' a (φ s) = ((sem a s).1, φ (sem a s).2)) :
    turn sem' i (p.map φ) = (turn sem i p).map (map φ) := by
  simp only [turn, map]
  cases p.thread i with
  | done x => rfl
  | act a next =>
      simp only [h]
      rfl

end Pool

end Program
