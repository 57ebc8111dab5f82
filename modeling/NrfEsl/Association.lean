import NrfEsl.Tag.View

/-!
# Association data of a tag

A tag that synchronises, updates or waits for a lost train uses its address and its keys.  These
are valid only while all four provisioning bits are set: whoever clears the keys clears the bits.

**The invariant** (`Assoc.Coherent`) is stronger and simpler: the tag is in `SM_UNASSOCIATED`
exactly when some provisioning bit is missing.  Every provisioning write, command, connection
callback, unassociation and reboot keeps it, in every order.

**The gap.**  Three events enter `SM_SYNCHRONIZED` or `SM_UNSYNCHRONIZED` without looking at the
bits: `sync_cb`, `term_cb`, and the state timeout in its unsynced mode.  In `SM_UNASSOCIATED`
they leave the invariant and the tag follows a train with cleared keys.  They can happen there:
`OP_UNASSOCIATE` clears the Synchronized bit before its completion callback decides from that bit
whether to stop the sync, and a packet still in the parser renews the timeout in unsynced mode.
`usesAssociation_iff` says that nothing else goes wrong.
-/

namespace NrfEsl

open EslTag

/-- The states in which the tag uses its address and keys. -/
def EslState.UsesAssociation (s : EslState) : Prop :=
  s = .synchronized ∨ s = .updating ∨ s = .unsynchronized

/-- In those states all four provisioning bits are set. -/
def Assoc.Sound (a : Assoc) : Prop :=
  a.eslState.UsesAssociation → a.configuringState.Provisioned

/-- The tag is unassociated exactly when a provisioning bit is missing. -/
def Assoc.Coherent (a : Assoc) : Prop :=
  a.eslState = .unassociated ↔ ¬ a.configuringState.Provisioned

/-- The steps after which the bits are checked or cannot be wrong: no sync callback, no loss
callback and no unsynced timeout finds the tag in `SM_UNASSOCIATED`. -/
def GuardsAssociation (d : TagDevice) (e : TagEvent) : Prop :=
  match e with
  | .syncCb => d.tag.assoc.eslState ≠ .unassociated
  | .termCb => d.tag.assoc.eslState ≠ .unassociated
  | .stateTimeout =>
      d.tag.assoc.stateTimeoutWork.mode = .unsynced → d.tag.assoc.eslState ≠ .unassociated
  | _ => True

lemma Assoc.Coherent.sound {a : Assoc} (h : a.Coherent) : a.Sound := by
  intro hs
  by_contra hp
  have hu : a.eslState = .unassociated := h.mpr hp
  rcases hs with hs | hs | hs <;> simp [hu] at hs

/-! ## The invariant on the view of a tag -/

/-- Coherence only looks at the state and the provisioning bits. -/
def View.Coherent (v : View) : Prop := v.state = .unassociated ↔ ¬ v.provision.Complete

lemma EslTag.coherent_iff (t : EslTag) : t.assoc.Coherent ↔ t.view.Coherent := by
  have hp : t.view.provision.Complete ↔ t.assoc.configuringState.Provisioned :=
    ConfiguringState.complete_provision _
  rw [View.Coherent, hp]
  rfl

namespace View.Coherent

variable {cfg : Config} {v : View}

/-- Any state but `SM_UNASSOCIATED` goes with all bits set. -/
lemma of_complete (hs : v.state ≠ .unassociated) (hc : v.provision.Complete) : v.Coherent :=
  ⟨fun h => absurd h hs, fun h => absurd hc h⟩

lemma of_unassociated (hs : v.state = .unassociated) (hc : ¬ v.provision.Complete) :
    v.Coherent :=
  ⟨fun _ => hc, fun _ => hs⟩

lemma complete (h : v.Coherent) (hs : v.state ≠ .unassociated) : v.provision.Complete := by
  by_contra hc
  exact hs (h.mpr hc)

lemma lose (h : v.Coherent) (hs : v.state ≠ .unassociated) : v.lose.Coherent :=
  of_complete (by rintro ⟨⟩) (h.complete hs)

lemma synchronize (h : v.Coherent) (hs : v.state ≠ .unassociated) : v.synchronize.Coherent :=
  of_complete (by rintro ⟨⟩) (h.complete hs)

lemma unassociate : (v.unassociate cfg).Coherent :=
  of_unassociated rfl Provision.not_complete_empty

lemma disconnect (h : v.Coherent) (reason : UInt8) : (v.disconnect reason).Coherent := by
  unfold View.disconnect
  split_ifs with hloss hc hs
  · exact of_complete (by rintro ⟨⟩) hc
  · exact of_unassociated rfl hc
  · exact h
  · exact h

lemma secure (h : v.Coherent) : v.secure.Coherent := by
  unfold View.secure
  split_ifs with hs
  · refine of_complete (by rintro ⟨⟩) (h.complete ?_)
    rcases hs with hs | hs <;> simp [hs]
  · exact h

/-- A write sets one bit and then checks, so only the write of the last missing bit leaves
`SM_UNASSOCIATED`. -/
lemma provide (h : v.Coherent) (c : Characteristic) :
    (v.provide cfg c).checkConfiguring.Coherent := by
  unfold View.checkConfiguring
  split_ifs with hc
  · exact of_complete (by rintro ⟨⟩) hc
  · have hold : ¬ v.provision.Complete := fun hv => hc fun c' => by
      simp only [View.provide, Provision.has_add, hv c', Bool.or_true]
    exact of_unassociated (h.mpr hold) hc

lemma updateComplete (h : v.Coherent) : v.updateComplete.Coherent := by
  unfold View.updateComplete
  split_ifs with hs hc
  · exact h.synchronize (by simp [hs.1])
  · exact of_complete (by rintro ⟨⟩) hc
  · exact h

lemma sync (h : v.Coherent) (hs : v.state ≠ .unassociated) : v.sync.Coherent := by
  have hsynced : ({ v with synced := true } : View).Coherent := h
  simp only [View.sync]
  split_ifs
  · exact hsynced.synchronize hs
  · exact hsynced

lemma term (h : v.Coherent) (hs : v.state ≠ .unassociated) : v.term.Coherent :=
  of_complete (by rintro ⟨⟩) (h.complete hs)

lemma stopSync (h : v.Coherent) (hs : v.state ≠ .unassociated) : (v.stopSync cfg).Coherent := by
  unfold View.stopSync
  split_ifs
  · exact h.term hs
  · exact h
  · exact h

lemma timeout (h : v.Coherent) (hs : v.mode = .unsynced → v.state ≠ .unassociated) :
    (v.timeout cfg).Coherent := by
  simp only [View.timeout]
  split
  · rename_i hm
    exact stopSync (h.lose (hs hm)) (by rintro ⟨⟩)
  · exact unassociate

/-- A tag boots into `SM_UNSYNCHRONIZED` when everything was restored, else unassociated. -/
lemma boot (stored : Provision) : (View.boot stored).Coherent := by
  simp only [View.boot]
  split_ifs with hc
  · exact of_complete (by rintro ⟨⟩) hc
  · exact of_unassociated rfl hc

end View.Coherent

/-! ## Runs -/

section Runs

variable {cfg : Config} {ead : Ead}

open TagDevice

lemma coherent_boot (p : BootParam) : (boot cfg p).tag.assoc.Coherent := by
  rw [coherent_iff, TagDevice.boot, view_btEslInit]
  exact .boot _

/-- **One step.**  Every guarded event keeps the invariant. -/
theorem coherent_step :
    TransitionSystem.PreservedUnder (TagDevice.step cfg ead) GuardsAssociation
      (fun d => d.tag.assoc.Coherent) := by
  intro d e d' h hg hstep
  rw [coherent_iff] at h ⊢
  have heff := step_effect hstep
  generalize d'.tag.view = v' at heff ⊢
  cases heff with
  | keep => exact h
  | renew => exact h
  | disconnect reason => exact h.disconnect reason
  | secure => exact h.secure
  | provide _ c => exact h.provide c
  | clearSynchronized => exact h
  | updateComplete => exact h.updateComplete
  | unassociate => exact .unassociate
  | sync => exact h.sync hg
  | term => exact h.term hg
  | timeout => exact h.timeout hg
  | reboot => exact .boot _

/-- Outside the guard the invariant is lost at once: the handler enters a state that uses the
keys, with a bit missing. -/
lemma guardsAssociation_of_sound {d d' : TagDevice} {e : TagEvent} (h : d.tag.assoc.Coherent)
    (hstep : d.step cfg ead e = some d') (hs : d'.tag.assoc.Sound) : GuardsAssociation d e := by
  have key : ∀ {s : EslState}, d'.tag.assoc.eslState = s → s.UsesAssociation →
      d'.tag.assoc.configuringState = d.tag.assoc.configuringState →
      d.tag.assoc.eslState ≠ .unassociated := by
    intro s hst hu hc hun
    refine (h.mp hun) ?_
    rw [← hc]
    exact hs (hst ▸ hu)
  cases e with
  | syncCb =>
      cases hstep
      exact key (eslState_syncCb _) (.inl rfl) (configuringState_syncCb _)
  | termCb =>
      cases hstep
      exact key (eslState_termCb _) (.inr (.inr rfl)) (configuringState_termCb _)
  | stateTimeout =>
      intro hm
      obtain ⟨-, rfl⟩ := TagDevice.step_stateTimeout_eq_some.mp hstep
      refine key (s := .unsynchronized) ?_ (.inr (.inr rfl)) ?_
      · simp only [onTag, EslTag.eslStateTimeoutWorkFn, hm, eslState_eslStopSyncPawr]
        split <;> simp
      · simp [onTag, EslTag.eslStateTimeoutWorkFn, hm]
  | _ => trivial

/-- **Association data.**  From boot, every state of a run that uses the keys has all four
provisioning bits set exactly when no sync callback, loss callback or unsynced timeout of the run
finds the tag unassociated. -/
theorem usesAssociation_iff (cfg : Config) (ead : Ead) (p : BootParam) (es : List TagEvent) :
    TransitionSystem.AlongRun (TagDevice.step cfg ead) (fun d => d.tag.assoc.Sound)
        (boot cfg p) es
      ↔ TransitionSystem.StepsMeet (TagDevice.step cfg ead) GuardsAssociation (boot cfg p) es :=
  TransitionSystem.alongRun_iff_stepsMeet (I := fun d => d.tag.assoc.Coherent)
    (fun _ h => h.sound) coherent_step (fun _ _ _ h hstep hs => guardsAssociation_of_sound h hstep hs)
    (coherent_boot p)

end Runs

/-! ### A run that follows a train with cleared keys -/

/-- Unassociate over the Control Point, then the loss of the train that was never stopped. -/
def unassociateThenTermCb : List TagEvent :=
  [.eslControlWrite (.ofBytes [0x01, 0x01]), .ecpWork {}, .notifySent, .termCb]

/-- After the Unassociate the sync still runs; its loss leads to `SM_UNSYNCHRONIZED` with zero
keys and no provisioning bit set. -/
theorem usesAssociation_fails :
    ((TransitionSystem.run (TagDevice.step .sample .clear) (TagDevice.boot .sample {})
        (configuredAndUpdating ++ unassociateThenTermCb)).map fun d =>
      (d.tag.assoc.eslState, d.tag.assoc.configuringState, d.tag.assoc.eslApKey))
        = some (.unsynchronized, {}, .zero)
    ∧ ¬ TransitionSystem.AlongRun (TagDevice.step .sample .clear) (fun d => d.tag.assoc.Sound)
        (TagDevice.boot .sample {}) (configuredAndUpdating ++ unassociateThenTermCb) := by
  have hrun : ((TransitionSystem.run (TagDevice.step .sample .clear) (TagDevice.boot .sample {})
        (configuredAndUpdating ++ unassociateThenTermCb)).map fun d =>
      (d.tag.assoc.eslState, d.tag.assoc.configuringState, d.tag.assoc.eslApKey))
        = some (.unsynchronized, {}, .zero) := by decide +kernel
  refine ⟨hrun, fun hall => ?_⟩
  obtain ⟨d, hproj, hsound⟩ := hall.exists_of_map hrun
  simp only [Prod.mk.injEq] at hproj
  have hp := hsound (.inr (.inr hproj.1))
  rw [hproj.2.1] at hp
  exact absurd hp (by decide)

end NrfEsl
