import NrfEsl.Tag.View

/-!
# Link loss during configuration

A link that is lost before the AP has sent Update Complete should take the tag back to
`SM_UNASSOCIATED`.  Whether the configuration was completed is a fact about the past, so it is a
history variable here (`completedAfter`); the code decides from the provisioning bits instead.

**The effect of that** (`linkLoss_iff`).  All bits set leads to `SM_UNSYNCHRONIZED`, and a bit is
missing only before the tag has left `SM_UNASSOCIATED`.  So a link loss never takes the tag back: it
is in `SM_UNASSOCIATED` afterwards exactly if it was there before.

**Reboots.**  A tag that finds a complete association in its settings passes through
`SM_UNASSOCIATED` while it boots.  Whether it thereby leaves that state, or goes on with the
association it had, is a parameter (`continues`); the result is the same.
-/

namespace NrfEsl

open EslTag TransitionSystem

/-! ## Specification -/

/-- An Update Complete has been executed since the tag last left `SM_UNASSOCIATED`, after one more
event. -/
def completedAfter (cfg : Config) (continues : Bool) (d : TagDevice) (e : TagEvent)
    (d' : TagDevice) (completed : Bool) : Bool :=
  if d'.tag.assoc.eslState = .unassociated then false
  else
    match e with
    | .ecpWork _ => completed || decide (d.Runs cfg .updateComplete)
    | .reboot _ => continues && completed
    | _ => completed

/-- The tag, with its history. -/
def stepCompleted (cfg : Config) (ead : Ead) (continues : Bool) :
    TagDevice × Bool → TagEvent → Option (TagDevice × Bool) :=
  withHistory (completedAfter cfg continues) (TagDevice.step cfg ead)

/-- The link is lost, other than by this tag, before the configuration was completed. -/
def LostUncompleted (x : TagDevice × Bool) (e : TagEvent) : Prop :=
  ∃ reason, e = .disconnected reason ∧ reason ≠ btHciErrLocalhostTermConn ∧ x.2 = false

/-- Such a link loss ends in `SM_UNASSOCIATED`. -/
def RevertsOnLoss (cfg : Config) (ead : Ead) (x : TagDevice × Bool) (e : TagEvent) : Prop :=
  LostUncompleted x e → ∀ d', x.1.step cfg ead e = some d' → d'.tag.assoc.eslState = .unassociated

/-- Such a link loss finds the tag in `SM_UNASSOCIATED`. -/
def LostUnassociated (x : TagDevice × Bool) (e : TagEvent) : Prop :=
  LostUncompleted x e → x.1.tag.assoc.eslState = .unassociated

/-! ## The handler -/

/-- **A link loss never takes the tag back to `SM_UNASSOCIATED`.** -/
lemma View.Consistent.disconnect_unassociated {v : View} (h : v.Consistent) (reason : UInt8) :
    (v.disconnect reason).state = .unassociated ↔ v.state = .unassociated := by
  unfold View.disconnect
  split_ifs with hloss hc hs
  · exact iff_of_false (by rintro ⟨⟩) fun hu => h.unassociated hu hc
  · refine iff_of_true rfl ?_
    rcases hs with hs | hs
    · exact absurd (h.configuring (.inl hs)) hc
    · exact hs
  · rfl
  · rfl

section Runs

variable {cfg : Config} {ead : Ead} {continues : Bool}

/-- **One step** from a consistent state. -/
lemma revertsOnLoss_iff {x : TagDevice × Bool} {e : TagEvent} (h : x.1.tag.view.Consistent) :
    RevertsOnLoss cfg ead x e ↔ LostUnassociated x e := by
  refine imp_congr_right ?_
  rintro ⟨reason, rfl, -, -⟩
  refine Iff.trans ?_ (h.disconnect_unassociated reason)
  rw [← view_disconnected]
  constructor
  · exact fun hall => hall _ rfl
  · rintro hu _ ⟨⟩
    exact hu

/-- **Link loss.**  From boot, every link loss before Update Complete ends in `SM_UNASSOCIATED`
exactly when each of them finds the tag still there. -/
theorem linkLoss_iff (cfg : Config) (ead : Ead) (continues : Bool) (p : BootParam)
    (completed : Bool) (es : List TagEvent) :
    StepsMeet (stepCompleted cfg ead continues) (RevertsOnLoss cfg ead)
        (TagDevice.boot cfg p, completed) es
      ↔ StepsMeet (stepCompleted cfg ead continues) LostUnassociated
          (TagDevice.boot cfg p, completed) es := by
  refine stepsMeet_congr (I := fun x => x.1.tag.view.Consistent) ?_ ?_ ?_
  · intro x e y hx hstep
    exact TagDevice.consistent_step hx (withHistory_eq_some.mp hstep).1
  · intro x e y hx _
    exact revertsOnLoss_iff hx
  · exact TagDevice.consistent_boot p

end Runs

/-! ### A link lost after the four writes -/

/-- All values are written, then the link is lost. -/
def provisionedThenLost : List TagEvent := configuredAndUpdating.take 5 ++ [.disconnected 0x08]

/-- The tag keeps the values and is in `SM_UNSYNCHRONIZED`, with no Update Complete executed. -/
theorem linkLoss_fails :
    ((run (stepCompleted .sample .clear true) (TagDevice.boot .sample {}, false)
        (configuredAndUpdating.take 5)).map fun x =>
      ((x.1.tag.disconnected .sample 0x08).assoc.eslState, x.2)) = some (.unsynchronized, false)
    ∧ ¬ StepsMeet (stepCompleted .sample .clear true) (RevertsOnLoss .sample .clear)
        (TagDevice.boot .sample {}, false) provisionedThenLost := by
  have hrun : ((run (stepCompleted .sample .clear true) (TagDevice.boot .sample {}, false)
        (configuredAndUpdating.take 5)).map fun x =>
      ((x.1.tag.disconnected .sample 0x08).assoc.eslState, x.2)) = some (.unsynchronized, false) := by
    decide +kernel
  refine ⟨hrun, fun hall => ?_⟩
  obtain ⟨x, hx, hproj⟩ := Option.map_eq_some_iff.mp hrun
  simp only [Prod.mk.injEq] at hproj
  have hreverts := (hall.of_append hx _ rfl).1 ⟨0x08, rfl, by decide, hproj.2⟩ _ rfl
  rw [TagDevice.onTag, hproj.1] at hreverts
  cases hreverts

end NrfEsl
