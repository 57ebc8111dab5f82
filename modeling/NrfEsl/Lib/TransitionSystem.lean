import Mathlib.Order.Basic

/-!
# Partial deterministic transition systems

A system is a partial step function `step : σ → ε → Option σ`: `none` says that the event is not
enabled in the state.  A run executes a list of events from the left and stops at the first one
that is not enabled.

Two predicates describe a run, both by recursion on its events:

* `AlongRun step P s es` — `P` holds in **every state reached** while executing `es` from `s`,
  the first and the last one included.
* `StepsMeet step G s es` — **every step taken** by the run meets the guard `G`, a condition on
  the state before the step and the event.

**The two rules.**  `alongRun_of_stepsMeet` is guarded induction: an invariant that every guarded
step preserves holds along every run whose steps meet the guard.  `alongRun_iff_stepsMeet` adds
the converse for a guard that is exact, that is, when a step outside it breaks the property at
once.  A property may fail later in a run, after the invariant is gone, so exactness is only
asked at states where the invariant still holds.  `stepsMeet_congr` compares two guards over an
invariant, and `Reachable.induction` is the unguarded rule.

A property of the past of a run is a guard on the system with a **history variable**,
`withHistory`.  A decidable guard is decided along a concrete run by executing it.
-/

namespace TransitionSystem

variable {σ ε : Type*} (step : σ → ε → Option σ)

/-- Execute the events from the left; `none` as soon as one is not enabled. -/
def run : σ → List ε → Option σ
  | s, [] => some s
  | s, e :: es => (step s e).bind fun s' => run s' es

/-- `P` holds in every state reached while executing the events. -/
def AlongRun (P : σ → Prop) : σ → List ε → Prop
  | s, [] => P s
  | s, e :: es => P s ∧ ∀ s', step s e = some s' → AlongRun P s' es

/-- Every step the run takes meets the guard. -/
def StepsMeet (G : σ → ε → Prop) : σ → List ε → Prop
  | _, [] => True
  | s, e :: es => ∀ s', step s e = some s' → G s e ∧ StepsMeet G s' es

/-- `s` can be reached from a state in `init`. -/
def Reachable (init : σ → Prop) (s : σ) : Prop :=
  ∃ s₀ es, init s₀ ∧ run step s₀ es = some s

/-- `I` is kept by every step that meets `G`. -/
def PreservedUnder (G : σ → ε → Prop) (I : σ → Prop) : Prop :=
  ∀ s e s', I s → G s e → step s e = some s' → I s'

variable {step}

@[simp] lemma run_nil (s : σ) : run step s ([] : List ε) = some s := rfl

@[simp] lemma run_cons (s : σ) (e : ε) (es : List ε) :
    run step s (e :: es) = (step s e).bind fun s' => run step s' es := rfl

/-- Running two lists of events one after the other. -/
theorem run_append (s : σ) (es es' : List ε) :
    run step s (es ++ es') = (run step s es).bind fun s' => run step s' es' := by
  induction es generalizing s with
  | nil => rfl
  | cons e es ih =>
      simp only [List.cons_append, run_cons]
      cases step s e with
      | none => rfl
      | some s' => exact ih s'

/-- Whatever holds along a run holds where it starts. -/
theorem AlongRun.head {P : σ → Prop} {s : σ} {es : List ε} (h : AlongRun step P s es) : P s := by
  cases es with
  | nil => exact h
  | cons e es => exact h.1

/-- Whatever holds along a run holds where it ends. -/
theorem AlongRun.last {P : σ → Prop} {s s' : σ} {es : List ε} (h : AlongRun step P s es)
    (hrun : run step s es = some s') : P s' := by
  induction es generalizing s with
  | nil =>
      cases hrun
      exact h
  | cons e es ih =>
      obtain ⟨t, ht, hrun⟩ := Option.bind_eq_some_iff.mp hrun
      exact ih (h.2 t ht) hrun

/-- So it does of the last state of a run that is known by a projection only. -/
theorem AlongRun.exists_of_map {τ : Type*} {P : σ → Prop} {s : σ} {es : List ε} {φ : σ → τ} {y : τ}
    (h : AlongRun step P s es) (hrun : (run step s es).map φ = some y) : ∃ s', φ s' = y ∧ P s' := by
  obtain ⟨s', hs', hφ⟩ := Option.map_eq_some_iff.mp hrun
  exact ⟨s', hφ, h.last hs'⟩

/-- A property along a run is weakened pointwise. -/
theorem AlongRun.imp {P Q : σ → Prop} (hPQ : ∀ s, P s → Q s) {s : σ} {es : List ε}
    (h : AlongRun step P s es) : AlongRun step Q s es := by
  induction es generalizing s with
  | nil => exact hPQ s h
  | cons e es ih => exact ⟨hPQ s h.1, fun s' hs' => ih (h.2 s' hs')⟩

/-- **Guarded induction.**  An invariant kept by every step inside the guard holds along every
run whose steps meet the guard. -/
theorem alongRun_of_stepsMeet {G : σ → ε → Prop} {I : σ → Prop}
    (hstep : PreservedUnder step G I) {s : σ} {es : List ε}
    (hs : I s) (hG : StepsMeet step G s es) : AlongRun step I s es := by
  induction es generalizing s with
  | nil => exact hs
  | cons e es ih =>
      refine ⟨hs, fun s' hs' => ?_⟩
      obtain ⟨hg, hrest⟩ := hG s' hs'
      exact ih (hstep s e s' hs hg hs') hrest

/-- A decidable guard is checked along a run by executing it. -/
instance StepsMeet.decidable {G : σ → ε → Prop} [∀ s e, Decidable (G s e)] :
    ∀ s es, Decidable (StepsMeet step G s es)
  | _, [] => isTrue trivial
  | s, e :: es =>
      match h : step s e with
      | none => isTrue (by
          intro s' hs'
          rw [h] at hs'
          cases hs')
      | some s' =>
          have := StepsMeet.decidable (G := G) s' es
          decidable_of_iff (G s e ∧ StepsMeet step G s' es) (by
            rw [StepsMeet, h]
            constructor
            · rintro hs _ ⟨⟩
              exact hs
            · exact fun hs => hs s' rfl)

/-- What a guarded step does in a state of the invariant, every step of a guarded run does. -/
theorem StepsMeet.strengthen {G H : σ → ε → Prop} {I : σ → Prop}
    (hstep : PreservedUnder step G I) (hH : ∀ s e s', I s → G s e → step s e = some s' → H s e)
    {s : σ} {es : List ε} (hs : I s) (hG : StepsMeet step G s es) : StepsMeet step H s es := by
  induction es generalizing s with
  | nil => trivial
  | cons e es ih =>
      intro s' hs'
      obtain ⟨hg, hrest⟩ := hG s' hs'
      exact ⟨hH s e s' hs hg hs', ih (hstep s e s' hs hg hs') hrest⟩

/-- The steps of the second part of a run are steps of the run. -/
theorem StepsMeet.of_append {G : σ → ε → Prop} {s s' : σ} {es es' : List ε}
    (h : StepsMeet step G s (es ++ es')) (hrun : run step s es = some s') :
    StepsMeet step G s' es' := by
  induction es generalizing s with
  | nil =>
      cases hrun
      exact h
  | cons e es ih =>
      obtain ⟨t, ht, hrun⟩ := Option.bind_eq_some_iff.mp hrun
      exact ih (h t ht).2 hrun

/-- Two guards are met together. -/
lemma StepsMeet.and {G H : σ → ε → Prop} {s : σ} {es : List ε} (hG : StepsMeet step G s es)
    (hH : StepsMeet step H s es) : StepsMeet step (fun s e => G s e ∧ H s e) s es := by
  induction es generalizing s with
  | nil => trivial
  | cons e es ih =>
      exact fun s' hs' => ⟨⟨(hG s' hs').1, (hH s' hs').1⟩, ih (hG s' hs').2 (hH s' hs').2⟩

/-- A guard that always holds is met by every run. -/
lemma StepsMeet.of_forall {G : σ → ε → Prop} (hG : ∀ s e, G s e) {s : σ} {es : List ε} :
    StepsMeet step G s es := by
  induction es generalizing s with
  | nil => trivial
  | cons e es ih => exact fun s' _ => ⟨hG s e, ih⟩

/-- A guard on the events alone is met when all events meet it. -/
lemma StepsMeet.of_forall_mem {C : ε → Prop} {s : σ} {es : List ε} (h : ∀ e ∈ es, C e) :
    StepsMeet step (fun _ e => C e) s es := by
  induction es generalizing s with
  | nil => trivial
  | cons e es ih =>
      rw [List.forall_mem_cons] at h
      exact fun s' _ => ⟨h.1, ih h.2⟩

/-- An unguarded invariant holds in every reachable state. -/
theorem Reachable.induction {init I : σ → Prop} (hinit : ∀ s, init s → I s)
    (hstep : ∀ s e s', I s → step s e = some s' → I s') {s : σ}
    (h : Reachable step init s) : I s := by
  obtain ⟨s₀, es, h₀, hrun⟩ := h
  have hall : AlongRun step I s₀ es :=
    alongRun_of_stepsMeet (G := fun _ _ => True)
      (fun s e s' hs _ he => hstep s e s' hs he) (hinit s₀ h₀) (.of_forall fun _ _ => trivial)
  exact hall.last hrun

/-- **Exact guards, with a property of the steps.**  A property `P` of the states and a property `Q`
of the steps hold along a run exactly when its steps meet the guard, if a guarded step from a state
of the invariant has both and a step that has both is guarded. -/
theorem alongRun_and_stepsMeet_iff {G Q : σ → ε → Prop} {I P : σ → Prop}
    (hIP : ∀ s, I s → P s) (hstep : PreservedUnder step G I)
    (hGQ : ∀ s e s', I s → G s e → step s e = some s' → Q s e)
    (hexact : ∀ s e s', I s → step s e = some s' → Q s e → P s' → G s e) {s : σ} {es : List ε}
    (hs : I s) : AlongRun step P s es ∧ StepsMeet step Q s es ↔ StepsMeet step G s es := by
  constructor
  · rintro ⟨hP, hQ⟩
    induction es generalizing s with
    | nil => trivial
    | cons e es ih =>
        intro s' hs'
        obtain ⟨hq, hQ⟩ := hQ s' hs'
        have hg : G s e := hexact s e s' hs hs' hq (hP.2 s' hs').head
        exact ⟨hg, ih (hstep s e s' hs hg hs') (hP.2 s' hs') hQ⟩
  · intro hG
    exact ⟨(alongRun_of_stepsMeet hstep hs hG).imp hIP, hG.strengthen hstep hGQ hs⟩

/-- **Exact guards.**  If the invariant gives the property and every step outside the guard
breaks the property, then the property holds along a run exactly when its steps meet the
guard. -/
theorem alongRun_iff_stepsMeet {G : σ → ε → Prop} {I P : σ → Prop}
    (hIP : ∀ s, I s → P s) (hstep : PreservedUnder step G I)
    (hexact : ∀ s e s', I s → step s e = some s' → P s' → G s e) {s : σ} {es : List ε}
    (hs : I s) : AlongRun step P s es ↔ StepsMeet step G s es := by
  have h : AlongRun step P s es ∧ StepsMeet step (fun _ _ => True) s es ↔ StepsMeet step G s es :=
    alongRun_and_stepsMeet_iff hIP hstep (fun _ _ _ _ _ _ => trivial)
      (fun s e s' hs hs' _ => hexact s e s' hs hs') hs
  rwa [and_iff_left (.of_forall fun _ _ => trivial)] at h

/-- Two guards that agree on the steps taken from states of an invariant select the same runs. -/
theorem stepsMeet_congr {G H : σ → ε → Prop} {I : σ → Prop}
    (hstep : ∀ s e s', I s → step s e = some s' → I s')
    (hGH : ∀ s e s', I s → step s e = some s' → (G s e ↔ H s e)) {s : σ} {es : List ε}
    (hs : I s) : StepsMeet step G s es ↔ StepsMeet step H s es := by
  induction es generalizing s with
  | nil => exact Iff.rfl
  | cons e es ih =>
      refine forall_congr' fun s' => forall_congr' fun hs' => ?_
      rw [hGH s e s' hs hs', ih (hstep s e s' hs hs')]

/-- **A guard on the events alone.**  In states of an invariant every event is enabled, the guard says
no more than a condition on the event, and an event that meets it keeps the invariant. -/
theorem stepsMeet_iff_forall {G : σ → ε → Prop} {I : σ → Prop} {C : ε → Prop}
    (henabled : ∀ s e, I s → ∃ s', step s e = some s') (hG : ∀ s e, I s → (G s e ↔ C e))
    (hstep : PreservedUnder step (fun _ e => C e) I) {s : σ} {es : List ε} (hs : I s) :
    StepsMeet step G s es ↔ ∀ e ∈ es, C e := by
  induction es generalizing s with
  | nil => exact iff_of_true trivial fun e he => absurd he List.not_mem_nil
  | cons e es ih =>
      obtain ⟨s', hs'⟩ := henabled s e hs
      rw [List.forall_mem_cons]
      constructor
      · intro h
        obtain ⟨hg, hrest⟩ := h s' hs'
        have hc := (hG s e hs).mp hg
        exact ⟨hc, (ih (hstep s e s' hs hc hs')).mp hrest⟩
      · rintro ⟨hc, hrest⟩ t ht
        exact ⟨(hG s e hs).mpr hc, (ih (hstep s e t hs hc ht)).mpr hrest⟩

/-! ## Images of a system -/

section Map

variable {τ : Type*} {step' : τ → ε → Option τ} {φ : σ → τ}

/-- Runs of a system are runs of an image of it, state by state. -/
theorem alongRun_map (hstep : ∀ s e, step' (φ s) e = (step s e).map φ) {P : τ → Prop} {s : σ}
    {es : List ε} : AlongRun step' P (φ s) es ↔ AlongRun step (fun s => P (φ s)) s es := by
  induction es generalizing s with
  | nil => exact Iff.rfl
  | cons e es ih =>
      rw [AlongRun, AlongRun, hstep]
      cases step s e with
      | none => simp
      | some s' => simp [ih]

theorem stepsMeet_map (hstep : ∀ s e, step' (φ s) e = (step s e).map φ) {G : τ → ε → Prop} {s : σ}
    {es : List ε} : StepsMeet step' G (φ s) es ↔ StepsMeet step (fun s e => G (φ s) e) s es := by
  induction es generalizing s with
  | nil => exact Iff.rfl
  | cons e es ih =>
      rw [StepsMeet, StepsMeet, hstep]
      cases step s e with
      | none => simp
      | some s' => simp [ih]

end Map

/-! ## History variables

A history variable is a ghost component that steps update and never read. -/

section History

variable {η : Type*} (upd : σ → ε → σ → η → η)

/-- The system with a history variable; `upd` computes its new value from the step taken. -/
def withHistory (step : σ → ε → Option σ) (x : σ × η) (e : ε) : Option (σ × η) :=
  (step x.1 e).map fun s' => (s', upd x.1 e s' x.2)

variable {upd}

lemma withHistory_eq_some {x y : σ × η} {e : ε} :
    withHistory upd step x e = some y ↔ step x.1 e = some y.1 ∧ y.2 = upd x.1 e y.1 x.2 := by
  obtain ⟨s', h'⟩ := y
  simp only [withHistory, Option.map_eq_some_iff, Prod.mk.injEq]
  constructor
  · rintro ⟨t, ht, rfl, rfl⟩
    exact ⟨ht, rfl⟩
  · rintro ⟨ht, rfl⟩
    exact ⟨s', ht, rfl, rfl⟩

lemma withHistory_of_step {x : σ × η} {e : ε} {s' : σ} (h : step x.1 e = some s') :
    withHistory upd step x e = some (s', upd x.1 e s' x.2) := by
  rw [withHistory, h]
  rfl

end History

end TransitionSystem
