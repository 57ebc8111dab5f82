import NrfEsl.Tag.View

/-!
# The state timeout

One delayed work is the timeout of two states.  In `SM_SYNCHRONIZED` it runs in the unsynced mode
and ends the synchronisation; in `SM_UNSYNCHRONIZED` it runs in the unassociated mode and wipes the
tag.  In the other four states nobody waits for it, so there it must not be scheduled, or only in a
mode that leads where the tag already is.

**When this holds** (`timeoutCoherent_iff`).  The handlers schedule and cancel the work on the way
into a state, and four of them can miss it:

* the tail of the packet worker renews the unsynced timeout, whatever state the tag is in by then;
* a link loss with all provisioning bits set enters `SM_UNSYNCHRONIZED` without renewing the
  timeout, which is right only if the tag was there before;
* the provisioning write that completes the bits enters `SM_CONFIGURING` without cancelling it;
* Update Complete enters `SM_CONFIGURED` without cancelling it.
-/

namespace NrfEsl

open EslTag

/-! ## Specification -/

/-- A run of the timeout worker, if the work is scheduled, leaves the state as it is. -/
def EslTag.TimeoutHarmless (cfg : Config) (t : EslTag) : Prop :=
  t.assoc.stateTimeoutWork.work.isSome = true →
    ({ t with assoc.stateTimeoutWork.work := none }.eslStateTimeoutWorkFn cfg).assoc.eslState
      = t.assoc.eslState

/-- The timeout is scheduled, in this mode. -/
def Assoc.TimeoutScheduled (mode : EslTimeoutMode) (a : Assoc) : Prop :=
  a.stateTimeoutWork.work.isSome = true ∧ a.stateTimeoutWork.mode = mode

/-- The state timeout fits the state. -/
structure EslTag.TimeoutCoherent (cfg : Config) (t : EslTag) : Prop where
  synchronized : t.assoc.eslState = .synchronized → t.assoc.TimeoutScheduled .unsynced
  unsynchronized : t.assoc.eslState = .unsynchronized → t.assoc.TimeoutScheduled .unassociated
  others : t.assoc.eslState = .unassociated ∨ t.assoc.eslState = .configuring
    ∨ t.assoc.eslState = .configured ∨ t.assoc.eslState = .updating → t.TimeoutHarmless cfg

/-- The event finds the tag in a state that its handling of the timeout is right for. -/
structure KeepsTimeout (cfg : Config) (ead : Ead) (d : TagDevice) (e : TagEvent) : Prop where
  /-- The packet worker gets to its tail only while the tag is synchronised. -/
  renew : d.RenewsTimeout ead e → d.tag.assoc.eslState = .synchronized
  /-- A link loss finds the bits set only in `SM_UNSYNCHRONIZED`. -/
  linkLoss : ∀ reason, e = .disconnected reason → d.tag.view.CountsAsLoss reason →
    d.tag.assoc.configuringState.Provisioned → d.tag.assoc.eslState = .unsynchronized
  /-- A write completes the bits only while no timeout is scheduled. -/
  write : ∀ c, e.provides? = some c → (d.tag.view.provision.add c).Complete →
    d.tag.assoc.stateTimeoutWork.work = none
  /-- Update Complete leads to `SM_CONFIGURED` only while no timeout is scheduled. -/
  updateComplete : ∀ env, e = .ecpWork env → d.Runs cfg .updateComplete →
    ¬ (d.tag.assoc.eslState = .updating ∧ d.tag.basicState.synchronized = true) →
    d.tag.assoc.configuringState.Provisioned → d.tag.assoc.stateTimeoutWork.work = none

/-! ## On views -/

/-- Coherence of the timeout in terms of a view. -/
structure View.Timed (v : View) : Prop where
  synchronized : v.state = .synchronized → v.scheduled = true ∧ v.mode = .unsynced
  unsynchronized : v.state = .unsynchronized → v.scheduled = true ∧ v.mode = .unassociated
  unassociated : v.state = .unassociated → v.scheduled = true → v.mode = .unassociated
  others : v.state = .configuring ∨ v.state = .configured ∨ v.state = .updating →
    v.scheduled = false

namespace View

variable {cfg : Config} {v : View}

/-- The worker ends in the state its mode names. -/
lemma state_timeout : (v.timeout cfg).state
    = match v.mode with
      | .unsynced => .unsynchronized
      | .unassociated => .unassociated := by
  simp only [timeout]
  cases v.mode with
  | unsynced =>
      simp only [stopSync]
      split_ifs <;> rfl
  | unassociated => rfl

namespace Timed

lemma lose : v.lose.Timed where
  synchronized h := by cases h
  unsynchronized _ := ⟨rfl, rfl⟩
  unassociated h := by cases h
  others h := by rcases h with h | h | h <;> cases h

lemma synchronize : v.synchronize.Timed where
  synchronized _ := ⟨rfl, rfl⟩
  unsynchronized h := by cases h
  unassociated h := by cases h
  others h := by rcases h with h | h | h <;> cases h

/-- In `SM_UNASSOCIATED` the mode is enough. -/
lemma of_unassociated (hs : v.state = .unassociated) (hm : v.mode = .unassociated) : v.Timed where
  synchronized h := by simp [hs] at h
  unsynchronized h := by simp [hs] at h
  unassociated _ _ := hm
  others h := by rcases h with h | h | h <;> simp [hs] at h

/-- In the states without a timeout it must not be scheduled. -/
lemma of_unscheduled
    (hs : v.state = .configuring ∨ v.state = .configured ∨ v.state = .updating)
    (hw : v.scheduled = false) : v.Timed where
  synchronized h := by rcases hs with hs | hs | hs <;> simp [hs] at h
  unsynchronized h := by rcases hs with hs | hs | hs <;> simp [hs] at h
  unassociated h := by rcases hs with hs | hs | hs <;> simp [hs] at h
  others _ := hw

/-- Coherence looks at three components only. -/
lemma congr {v' : View} (h : v.Timed) (hs : v'.state = v.state) (hw : v'.scheduled = v.scheduled)
    (hm : v'.mode = v.mode) : v'.Timed := by
  obtain ⟨h₁, h₂, h₃, h₄⟩ := h
  constructor <;> rw [hs, hw]
  · rwa [hm]
  · rwa [hm]
  · rwa [hm]
  · exact h₄

lemma stopSync (h : v.Timed) : (v.stopSync cfg).Timed := by
  unfold View.stopSync
  split_ifs
  · exact lose
  · exact h.congr rfl rfl rfl
  · exact h

lemma unassociate : (v.unassociate cfg).Timed := of_unassociated rfl rfl

lemma sync (h : v.Timed) : v.sync.Timed := by
  simp only [View.sync]
  split_ifs
  · exact synchronize
  · exact h.congr rfl rfl rfl

lemma secure (h : v.Timed) : v.secure.Timed := by
  unfold View.secure
  split_ifs
  · exact of_unscheduled (.inr (.inr rfl)) rfl
  · exact h

lemma timeout : (v.timeout cfg).Timed := by
  simp only [View.timeout]
  split
  · exact lose.stopSync
  · exact unassociate

lemma boot (stored : Provision) : (View.boot stored).Timed := by
  simp only [View.boot]
  split_ifs
  · exact lose
  · exact of_unassociated rfl rfl

/-! ### The four operations that depend on the state -/

/-- Renewing the unsynced timeout is right in `SM_SYNCHRONIZED` only. -/
lemma renew_iff : (v.renew .unsynced).Timed ↔ v.state = .synchronized := by
  constructor
  · intro h
    cases hs : v.state with
    | synchronized => rfl
    | unassociated => cases h.unassociated hs rfl
    | unsynchronized => cases (h.unsynchronized hs).2
    | configuring => cases h.others (.inl hs)
    | configured => cases h.others (.inr (.inl hs))
    | updating => cases h.others (.inr (.inr hs))
  · intro hs
    exact (synchronize (v := v)).congr hs rfl rfl

/-- A link loss with all bits set is right in `SM_UNSYNCHRONIZED` only. -/
lemma disconnect_iff (h : v.Timed) (hv : v.Consistent) (reason : UInt8) :
    (v.disconnect reason).Timed
      ↔ (v.CountsAsLoss reason → v.provision.Complete → v.state = .unsynchronized) := by
  unfold View.disconnect
  split_ifs with hloss hc hs
  · constructor
    · intro h' _ _
      obtain ⟨hw, hm⟩ := h'.unsynchronized rfl
      have hw' : v.scheduled = true := hw
      have hm' : v.mode = .unassociated := hm
      cases hs : v.state with
      | synchronized => simp [(h.synchronized hs).2] at hm'
      | unassociated => exact absurd hc (hv.unassociated hs)
      | unsynchronized => rfl
      | configuring => simp [h.others (.inl hs)] at hw'
      | configured => simp [h.others (.inr (.inl hs))] at hw'
      | updating => simp [h.others (.inr (.inr hs))] at hw'
    · intro h'
      have hs := h' hloss hc
      exact h.congr (by rw [hs]) rfl rfl
  · refine iff_of_true ?_ fun _ h' => absurd h' hc
    rcases hs with hs | hs
    · exact absurd (hv.configuring (.inl hs)) hc
    · exact h.congr (by rw [hs]) rfl rfl
  · exact iff_of_true h fun _ h' => absurd h' hc
  · exact iff_of_true h fun h' => absurd h' hloss

/-- A state without a timeout is right when none is scheduled. -/
lemma enter_iff (hs : v.state = .configuring ∨ v.state = .configured) :
    v.Timed ↔ v.scheduled = false := by
  have hs' : v.state = .configuring ∨ v.state = .configured ∨ v.state = .updating := by
    rcases hs with hs | hs
    · exact .inl hs
    · exact .inr (.inl hs)
  exact ⟨fun h => h.others hs', fun hw => of_unscheduled hs' hw⟩

lemma provide_iff (h : v.Timed) (c : Characteristic) :
    (v.provide cfg c).checkConfiguring.Timed
      ↔ ((v.provision.add c).Complete → v.scheduled = false) := by
  have hp : (v.provide cfg c).provision = v.provision.add c := rfl
  simp only [View.checkConfiguring, hp]
  split_ifs with hc
  · exact (enter_iff (.inl rfl)).trans ⟨fun h' _ => h', fun h' => h' hc⟩
  · exact iff_of_true (h.congr rfl rfl rfl) fun h' => absurd h' hc

lemma updateComplete_iff (h : v.Timed) :
    v.updateComplete.Timed
      ↔ (¬ (v.state = .updating ∧ v.synchronized = true) → v.provision.Complete →
          v.scheduled = false) := by
  unfold View.updateComplete
  split_ifs with hu hc
  · exact iff_of_true synchronize fun h' => absurd hu h'
  · exact (enter_iff (.inr rfl)).trans ⟨fun h' _ _ => h', fun h' => h' hu hc⟩
  · exact iff_of_true h fun _ h' => absurd h' hc

end Timed

end View

/-! ## Connection -/

section Connection

variable {cfg : Config} {ead : Ead}

/-- A run of the worker is harmless exactly when its mode names the state. -/
lemma EslTag.timeoutHarmless_iff (t : EslTag) :
    t.TimeoutHarmless cfg
      ↔ (t.view.scheduled = true → (t.view.timeout cfg).state = t.view.state) := by
  rw [← view_eslStateTimeoutWorkFn]
  rfl

/-- Coherence on the tag is coherence of its view. -/
lemma EslTag.timeoutCoherent_iff_timed (t : EslTag) : t.TimeoutCoherent cfg ↔ t.view.Timed := by
  have hview : t.view.state = t.assoc.eslState := rfl
  constructor
  · rintro ⟨h₁, h₂, h₃⟩
    rw [← hview] at h₁ h₂ h₃
    simp only [timeoutHarmless_iff, View.state_timeout] at h₃
    refine ⟨h₁, h₂, fun hs hw => ?_, fun hs => ?_⟩
    · have h := h₃ (.inl hs) hw
      rw [hs] at h
      cases hm : t.view.mode with
      | unassociated => rfl
      | unsynced => simp [hm] at h
    · by_contra hw
      have h := h₃ (.inr hs) (by simpa using hw)
      cases hm : t.view.mode <;> rcases hs with hs | hs | hs <;> simp [hm, hs] at h
  · intro h
    refine ⟨h.synchronized, h.unsynchronized, fun hs => ?_⟩
    rw [timeoutHarmless_iff, View.state_timeout]
    intro hw
    rcases hs with hs | hs
    · rw [h.unassociated hs hw]
      exact hs.symm
    · rw [h.others hs] at hw
      cases hw

/-- The guard in terms of views. -/
lemma unscheduled_iff (t : EslTag) :
    t.assoc.stateTimeoutWork.work = none ↔ t.view.scheduled = false := by
  rw [EslTag.view, Option.isSome_eq_false_iff, Option.isNone_iff_eq_none]

/-- **One step.**  Every event inside the guard keeps the timeout coherent. -/
theorem timed_step :
    TransitionSystem.PreservedUnder (TagDevice.step cfg ead) (KeepsTimeout cfg ead)
      (fun d => d.tag.view.Timed ∧ d.tag.view.Consistent) := by
  rintro d e d' ⟨h, hv⟩ hg hstep
  refine ⟨?_, TagDevice.consistent_step hv hstep⟩
  have hprov := ConfiguringState.complete_provision d.tag.assoc.configuringState
  have heff := TagDevice.step_effect hstep
  generalize d'.tag.view = v' at heff ⊢
  cases heff with
  | keep => exact h
  | renew _ hr => exact View.Timed.renew_iff.mpr (hg.renew hr)
  | disconnect reason =>
      exact (h.disconnect_iff hv reason).mpr fun hloss hc => hg.linkLoss _ rfl hloss (hprov.mp hc)
  | secure => exact h.secure
  | provide _ c hc => exact (h.provide_iff c).mpr fun h' => (unscheduled_iff _).mp (hg.write c hc h')
  | clearSynchronized => exact h.congr rfl rfl rfl
  | updateComplete env hr =>
      exact h.updateComplete_iff.mpr fun hu hc =>
        (unscheduled_iff _).mp (hg.updateComplete env rfl hr hu (hprov.mp hc))
  | unassociate => exact .unassociate
  | sync => exact h.sync
  | term => exact .lose
  | timeout => exact .timeout
  | reboot => exact .boot _

/-- Outside the guard the timeout is incoherent at once. -/
lemma keepsTimeout_of_timed {d d' : TagDevice} {e : TagEvent} (h : d.tag.view.Timed)
    (hv : d.tag.view.Consistent) (hstep : d.step cfg ead e = some d') (h' : d'.tag.view.Timed) :
    KeepsTimeout cfg ead d e := by
  have hprov := ConfiguringState.complete_provision d.tag.assoc.configuringState
  rw [TagDevice.step_view hstep] at h'
  refine ⟨fun hr => ?_, ?_, fun c hc hall => ?_, ?_⟩
  · rw [TagDevice.viewAfter_of_renewsTimeout hr] at h'
    exact View.Timed.renew_iff.mp h'
  · rintro reason rfl hloss hc
    exact (h.disconnect_iff hv reason).mp h' hloss (hprov.mpr hc)
  · rw [TagDevice.viewAfter_of_provides hc] at h'
    exact (unscheduled_iff _).mpr ((h.provide_iff c).mp h' hall)
  · rintro env rfl hr hu hc
    rw [TagDevice.viewAfter_of_updateComplete hr] at h'
    exact (unscheduled_iff _).mpr (h.updateComplete_iff.mp h' hu (hprov.mpr hc))

/-- **Timeout coherence.**  From boot, the state timeout fits the state in every state of a run
exactly when every event of the run finds the tag in a state its handling of the timeout is right
for. -/
theorem timeoutCoherent_iff (cfg : Config) (ead : Ead) (p : BootParam) (es : List TagEvent) :
    TransitionSystem.AlongRun (TagDevice.step cfg ead) (fun d => d.tag.TimeoutCoherent cfg)
        (TagDevice.boot cfg p) es
      ↔ TransitionSystem.StepsMeet (TagDevice.step cfg ead) (KeepsTimeout cfg ead)
          (TagDevice.boot cfg p) es := by
  refine TransitionSystem.alongRun_iff_stepsMeet
    (I := fun d => d.tag.view.Timed ∧ d.tag.view.Consistent)
    (fun d h => (EslTag.timeoutCoherent_iff_timed _).mpr h.1) timed_step
    (fun d e d' h hstep h' =>
      keepsTimeout_of_timed h.1 h.2 hstep ((EslTag.timeoutCoherent_iff_timed _).mp h')) ?_
  rw [TagDevice.boot, view_btEslInit]
  exact ⟨.boot _, .boot _⟩

end Connection

/-! ### A link loss while the tag is updated -/

/-- The tag is in `SM_UPDATING`, with its timeout cancelled, when the link is lost. -/
theorem timeoutCoherent_fails :
    ((TransitionSystem.run (TagDevice.step .sample .clear) (TagDevice.boot .sample {})
        (configuredAndUpdating ++ [.disconnected 0x08])).map fun d =>
      (d.tag.assoc.eslState, d.tag.assoc.stateTimeoutWork.work))
        = some (.unsynchronized, none)
    ∧ ¬ TransitionSystem.AlongRun (TagDevice.step .sample .clear)
        (fun d => d.tag.TimeoutCoherent .sample)
        (TagDevice.boot .sample {}) (configuredAndUpdating ++ [.disconnected 0x08]) := by
  have hrun : ((TransitionSystem.run (TagDevice.step .sample .clear) (TagDevice.boot .sample {})
        (configuredAndUpdating ++ [.disconnected 0x08])).map fun d =>
      (d.tag.assoc.eslState, d.tag.assoc.stateTimeoutWork.work))
        = some (.unsynchronized, none) := by decide +kernel
  refine ⟨hrun, fun hall => ?_⟩
  obtain ⟨d, hproj, hcoh⟩ := hall.exists_of_map hrun
  simp only [Prod.mk.injEq] at hproj
  have hw := (hcoh.unsynchronized hproj.1).1
  rw [hproj.2] at hw
  cases hw

end NrfEsl
