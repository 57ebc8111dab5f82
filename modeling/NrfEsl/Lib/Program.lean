import Mathlib.Data.Nat.Notation
import Mathlib.Logic.Function.Basic

/-!
# Programs over actions

A program either is done or performs an **action** and goes on with what the action answers:
`Program R α`, where `R a` is the type of the answers to `a`.  The actions have no meaning yet.
Giving them one is a second step, and the same program can be given several:

* `exec sem` runs it from a state, with `sem a` as the effect of `a`;
* `expand impl` replaces every action by a program over lower actions.  `exec_expand` says that
  running the expansion is running the program with the expansions as effects, so a function and
  the functions it calls can be verified on their own levels.

**Properties of a run.**  `Along sem P p s` holds when every action performed by `p` from `s` meets
`P` in the state in which it is performed.  `Uses U p` is a property of the text: only actions of
`U` occur in `p`, whatever is answered.  `along_of_uses` and `exec_of_uses` are the invariant rules:
an invariant that the actions of `U` keep holds whenever one of them is performed, and at the end.

**Interference.**  `Under sem ok rel post p s` is the condition under which `p` ends in `post` when
the state may change by `rel` before each of its actions, provided each of them finds a state that
is `ok` for it.
-/

/-- A program that performs actions `a`, answered in `R a`, and returns an `α`. -/
inductive Program {A : Type} (R : A → Type) (α : Type) : Type
  | done (value : α)
  | act (a : A) (next : R a → Program R α)

namespace Program

variable {A B S T α β : Type} {R : A → Type} {Q : B → Type}

/-- One program after another. -/
protected def bind : Program R α → (α → Program R β) → Program R β
  | .done x, f => f x
  | .act a next, f => .act a fun r => (next r).bind f

instance : Monad (Program R) where
  pure := .done
  bind := Program.bind

/-- A single action. -/
def perform (a : A) : Program R (R a) := .act a .done

/-- `f 0`, …, `f (n - 1)` in this order. -/
def forIdx (f : ℕ → Program R Unit) : ℕ → Program R Unit
  | 0 => .done ()
  | n + 1 => (forIdx f n).bind fun _ => f n

@[simp] lemma pure_eq_done (x : α) : (pure x : Program R α) = .done x := rfl

@[simp] lemma bind_eq_bind (p : Program R α) (f : α → Program R β) : p >>= f = p.bind f := rfl

@[simp] lemma done_bind (x : α) (f : α → Program R β) : (done x).bind f = f x := rfl

@[simp] lemma act_bind (a : A) (next : R a → Program R α) (f : α → Program R β) :
    (act a next).bind f = .act a fun r => (next r).bind f := rfl

/-! ## Running a program -/

section Exec

variable (sem : ∀ a, S → R a × S)

/-- Run a program; `sem a` is the effect of the action `a`. -/
def exec : Program R α → S → α × S
  | .done x, s => (x, s)
  | .act a next, s => exec (next (sem a s).1) (sem a s).2

@[simp] lemma exec_done (x : α) (s : S) : exec sem (.done x : Program R α) s = (x, s) := rfl

@[simp] lemma exec_act (a : A) (next : R a → Program R α) (s : S) :
    exec sem (.act a next) s = exec sem (next (sem a s).1) (sem a s).2 := rfl

@[simp] lemma exec_perform (a : A) (s : S) : exec sem (perform a : Program R (R a)) s = sem a s :=
  rfl

@[simp] lemma exec_bind (p : Program R α) (f : α → Program R β) (s : S) :
    exec sem (p.bind f) s = exec sem (f (exec sem p s).1) (exec sem p s).2 := by
  induction p generalizing s with
  | done x => rfl
  | act a next ih => exact ih _ _

/-- A program runs alike over two meanings of its actions that a map of the states relates. -/
theorem exec_map {sem : ∀ a, S → R a × S} {sem' : ∀ a, T → R a × T} {φ : S → T}
    (h : ∀ a s, sem' a (φ s) = ((sem a s).1, φ (sem a s).2)) (p : Program R α) (s : S) :
    exec sem' p (φ s) = ((exec sem p s).1, φ (exec sem p s).2) := by
  induction p generalizing s with
  | done x => rfl
  | act a next ih =>
      rw [exec_act, h]
      exact ih _ _

end Exec

/-! ## Lower levels -/

/-- Replace every action by the program that implements it. -/
def expand (impl : ∀ a, Program Q (R a)) : Program R α → Program Q α
  | .done x => .done x
  | .act a next => (impl a).bind fun r => (next r).expand impl

@[simp] lemma expand_done (impl : ∀ a, Program Q (R a)) (x : α) :
    expand impl (.done x : Program R α) = .done x := rfl

@[simp] lemma expand_act (impl : ∀ a, Program Q (R a)) (a : A) (next : R a → Program R α) :
    expand impl (.act a next) = (impl a).bind fun r => (next r).expand impl := rfl

lemma bind_assoc {γ : Type} (p : Program R α) (f : α → Program R β) (g : β → Program R γ) :
    (p.bind f).bind g = p.bind fun x => (f x).bind g := by
  induction p with
  | done x => rfl
  | act a next ih => exact congrArg (act a) (funext ih)

lemma expand_bind (impl : ∀ a, Program Q (R a)) (p : Program R α) (f : α → Program R β) :
    (p.bind f).expand impl = (p.expand impl).bind fun x => (f x).expand impl := by
  induction p with
  | done x => rfl
  | act a next ih =>
      simp only [act_bind, expand_act, bind_assoc]
      exact congrArg _ (funext ih)

/-- Running the expansion of a program. -/
theorem exec_expand (sem : ∀ b, S → Q b × S) (impl : ∀ a, Program Q (R a)) (p : Program R α)
    (s : S) : exec sem (p.expand impl) s = exec (fun a => exec sem (impl a)) p s := by
  induction p generalizing s with
  | done x => rfl
  | act a next ih =>
      rw [expand_act, exec_bind, exec_act]
      exact ih _ _

/-! ## Properties of a run -/

section Along

variable (sem : ∀ a, S → R a × S) (P : A → S → Prop)

/-- Every action performed meets `P` in the state in which it is performed. -/
def Along : Program R α → S → Prop
  | .done _, _ => True
  | .act a next, s => P a s ∧ Along (next (sem a s).1) (sem a s).2

variable {sem P}

@[simp] lemma along_done (x : α) (s : S) : Along sem P (.done x : Program R α) s := trivial

@[simp] lemma along_act {a : A} {next : R a → Program R α} {s : S} :
    Along sem P (.act a next) s ↔ P a s ∧ Along sem P (next (sem a s).1) (sem a s).2 := Iff.rfl

lemma along_bind {p : Program R α} {f : α → Program R β} {s : S} :
    Along sem P (p.bind f) s ↔
      Along sem P p s ∧ Along sem P (f (exec sem p s).1) (exec sem p s).2 := by
  induction p generalizing s with
  | done x => exact (and_iff_right trivial).symm
  | act a next ih => rw [act_bind, along_act, along_act, ih, and_assoc, exec_act]

end Along

/-- Only actions of `U` occur in the program. -/
def Uses (U : A → Prop) : Program R α → Prop
  | .done _ => True
  | .act a next => U a ∧ ∀ r, Uses U (next r)

section Uses

variable {U : A → Prop}

@[simp] lemma uses_done (x : α) : Uses U (.done x : Program R α) := trivial

@[simp] lemma uses_act {a : A} {next : R a → Program R α} :
    Uses U (.act a next) ↔ U a ∧ ∀ r, Uses U (next r) := Iff.rfl

@[simp] lemma uses_perform {a : A} : Uses U (perform a : Program R (R a)) ↔ U a :=
  ⟨fun h => h.1, fun h => ⟨h, fun _ => trivial⟩⟩

lemma Uses.of_forall (hU : ∀ a, U a) (p : Program R α) : Uses U p := by
  induction p with
  | done x => trivial
  | act a next ih => exact ⟨hU a, ih⟩

lemma Uses.bind {p : Program R α} {f : α → Program R β} (hp : Uses U p) (hf : ∀ x, Uses U (f x)) :
    Uses U (p.bind f) := by
  induction p with
  | done x => exact hf x
  | act a next ih => exact ⟨hp.1, fun r => ih r (hp.2 r)⟩

lemma Uses.ite {c : Prop} [Decidable c] {p q : Program R α} (hp : Uses U p) (hq : Uses U q) :
    Uses U (if c then p else q) := by
  split
  · exact hp
  · exact hq

lemma Uses.forIdx {f : ℕ → Program R Unit} {n : ℕ} (hf : ∀ i < n, Uses U (f i)) :
    Uses U (forIdx f n) := by
  induction n with
  | zero => trivial
  | succ n ih => exact (ih fun i hi => hf i (Nat.lt_succ_of_lt hi)).bind fun _ => hf n n.lt_succ_self

lemma Uses.imp {V : A → Prop} (h : ∀ a, U a → V a) {p : Program R α} (hp : Uses U p) :
    Uses V p := by
  induction p with
  | done x => trivial
  | act a next ih => exact ⟨h a hp.1, fun r => ih r (hp.2 r)⟩

/-- What the implementations use, the expansion uses. -/
lemma Uses.expand {V : B → Prop} {impl : ∀ a, Program Q (R a)} {p : Program R α} (hp : Uses U p)
    (himpl : ∀ a, U a → Uses V (impl a)) : Uses V (p.expand impl) := by
  induction p with
  | done x => trivial
  | act a next ih => exact (himpl a hp.1).bind fun r => ih r (hp.2 r)

variable {sem : ∀ a, S → R a × S} {I : S → Prop} {P : A → S → Prop}

/-- **The invariant rule.**  What the actions of a program meet and keep while an invariant holds,
every run of it meets. -/
theorem along_of_uses {p : Program R α} (hp : Uses U p)
    (h : ∀ a s, U a → I s → P a s ∧ I (sem a s).2) {s : S} (hs : I s) : Along sem P p s := by
  induction p generalizing s with
  | done x => trivial
  | act a next ih =>
      obtain ⟨ha, hI⟩ := h a s hp.1 hs
      exact ⟨ha, ih _ (hp.2 _) hI⟩

theorem exec_of_uses {p : Program R α} (hp : Uses U p) (h : ∀ a s, U a → I s → I (sem a s).2)
    {s : S} (hs : I s) : I (exec sem p s).2 := by
  induction p generalizing s with
  | done x => exact hs
  | act a next ih => exact ih _ (hp.2 _) (h a s hp.1 hs)

end Uses

/-! ## Interference -/

section Under

variable (sem : ∀ a, S → R a × S) (ok : A → S → Prop) (rel : S → S → Prop) (post : α → S → Prop)

/-- The program ends in `post` although the state may change by `rel` before each of its actions,
if every action finds a state that is `ok` for it. -/
def Under : Program R α → S → Prop
  | .done x, s => ∀ s', rel s s' → post x s'
  | .act a next, s => ∀ s', rel s s' → ok a s' → Under (next (sem a s').1) (sem a s').2

variable {sem ok rel post}

/-- Interference before the next action is one more step of it. -/
lemma Under.of_rel (htrans : ∀ s s' s'', rel s s' → rel s' s'' → rel s s'') {p : Program R α}
    {s s' : S} (h : Under sem ok rel post p s) (hrel : rel s s') : Under sem ok rel post p s' := by
  cases p with
  | done x => exact fun t ht => h t (htrans _ _ _ hrel ht)
  | act a next => exact fun t ht => h t (htrans _ _ _ hrel ht)

/-- An own action. -/
lemma Under.step (hrefl : ∀ s, rel s s) {a : A} {next : R a → Program R α} {s : S}
    (h : Under sem ok rel post (.act a next) s) (hok : ok a s) :
    Under sem ok rel post (next (sem a s).1) (sem a s).2 :=
  h s (hrefl s) hok

/-- The rule for an action: an assertion that interference keeps. -/
lemma Under.act {I : S → Prop} (hstable : ∀ s s', rel s s' → I s → I s') {a : A}
    {next : R a → Program R α} {s : S} (hs : I s)
    (h : ∀ t, I t → ok a t → Under sem ok rel post (next (sem a t).1) (sem a t).2) :
    Under sem ok rel post (.act a next) s :=
  fun t ht => h t (hstable s t ht hs)

/-- The rule for the end. -/
lemma Under.done {J : S → Prop} (hstable : ∀ s s', rel s s' → J s → J s') {x : α} {s : S}
    (hs : J s) : Under sem ok rel (fun _ => J) (.done x) s :=
  fun t ht => hstable s t ht hs

/-- One program after another under interference. -/
lemma Under.bind {mid : β → S → Prop} (hrefl : ∀ s, rel s s) {p : Program R β}
    {f : β → Program R α} {s : S} (hp : Under sem ok rel mid p s)
    (hf : ∀ x s, mid x s → Under sem ok rel post (f x) s) :
    Under sem ok rel post (p.bind f) s := by
  induction p generalizing s with
  | done x => exact hf x s (hp s (hrefl s))
  | act a next ih => exact fun t ht hok => ih _ (hp t ht hok)

/-- A program whose actions keep an assertion that interference keeps too. -/
lemma Under.of_uses {U : A → Prop} {J : S → Prop} (hstable : ∀ s s', rel s s' → J s → J s')
    (h : ∀ a s, U a → J s → J (sem a s).2) {p : Program R α} (hp : Uses U p) {s : S} (hs : J s) :
    Under sem ok rel (fun _ => J) p s := by
  induction p generalizing s with
  | done x => exact .done hstable hs
  | act a next ih => exact .act hstable hs fun t ht _ => ih _ (hp.2 _) (h a t hp.1 ht)

end Under

end Program
