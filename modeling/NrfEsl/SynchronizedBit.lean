import NrfEsl.Tag.View

/-!
# The Synchronized bit

Every Basic State response reports whether the tag is synchronised.  The bit is kept next to the
state machine and not by it: the entries of `SM_SYNCHRONIZED` and `SM_UNSYNCHRONIZED` write it, the
other four leave it, `term_cb` and Unassociate clear it.

**When it agrees with the state** (`synchronizedBit_iff`).  Four handlers move one without the
other, and each is right only if the two agree afterwards by luck:

* Unassociate clears the bit and leaves the state to the completion of its notification;
* a provisioning write and Update Complete enter `SM_CONFIGURING` and `SM_CONFIGURED` with the bit as
  it is;
* `bt_esl_unassociate` relies on the stack to call `term_cb` when the sync is deleted.
-/

namespace NrfEsl

open EslTag

/-! ## Specification -/

/-- The Synchronized bit agrees with the state; in `SM_UPDATING` it may have either value. -/
structure EslTag.BitAgrees (t : EslTag) : Prop where
  synchronized : t.assoc.eslState = .synchronized → t.basicState.synchronized = true
  others : t.assoc.eslState = .unassociated ∨ t.assoc.eslState = .configuring
    ∨ t.assoc.eslState = .configured ∨ t.assoc.eslState = .unsynchronized →
      t.basicState.synchronized = false

/-- The event moves the bit along with the state. -/
structure KeepsBit (cfg : Config) (d : TagDevice) (e : TagEvent) : Prop where
  /-- No Unassociate is executed in `SM_SYNCHRONIZED`. -/
  command : ∀ env, e = .ecpWork env → d.RunsUnassociate cfg →
    d.tag.assoc.eslState ≠ .synchronized
  /-- A write completes the bits only with the Synchronized bit clear. -/
  write : ∀ c, e.provides? = some c → (d.tag.view.provision.add c).Complete →
    d.tag.basicState.synchronized = false
  /-- Update Complete leads to `SM_CONFIGURED` only with the Synchronized bit clear. -/
  updateComplete : ∀ env, e = .ecpWork env → d.Runs cfg .updateComplete →
    ¬ (d.tag.assoc.eslState = .updating ∧ d.tag.basicState.synchronized = true) →
    d.tag.assoc.configuringState.Provisioned → d.tag.basicState.synchronized = false
  /-- Unassociating with the bit set deletes a sync, and the stack reports that. -/
  unassociate : d.Unassociates cfg e
      ∨ e = .stateTimeout ∧ d.tag.assoc.stateTimeoutWork.mode = .unassociated →
    d.tag.basicState.synchronized = true → d.tag.assoc.pawrSynced = true ∧ cfg.termOnDelete = true

/-- Bit 1 of the Basic State is the Synchronized bit. -/
lemma BasicState.testBit_toUInt16 (b : BasicState) :
    b.toUInt16.toNat.testBit 1 = b.synchronized := by
  obtain ⟨s, y, a, l, p⟩ := b
  cases s <;> cases y <;> cases a <;> cases l <;> cases p <;> decide

/-- **A Basic State response reports the bit.** -/
theorem responseBytes_synchronized (cfg : Config) (env : HandlerEnv) (t : EslTag)
    (h : t.ecp.resp.respOp = .basicState) :
    ∃ low high, (t.prepareResponse cfg).responseBytes cfg env
        = [EslRespCode.basicState.toByte, low, high]
      ∧ low.toNat.testBit 1 = t.basicState.synchronized := by
  have hprep : (t.prepareResponse cfg).ecp.resp.respOp = .basicState := by
    simp only [prepareResponse]
    split <;> exact h
  have hbit : (t.prepareResponse cfg).basicState.synchronized = t.basicState.synchronized := by
    simp only [prepareResponse]
    split <;> rfl
  refine ⟨_, _, by rw [responseBytes, hprep], ?_⟩
  have hlow : ∀ w : UInt16, (lowByte w).toNat = w.toNat % 2 ^ 8 := fun _ => rfl
  rw [← hbit, ← BasicState.testBit_toUInt16, hlow, Nat.testBit_mod_two_pow]
  rfl

/-! ## On views -/

/-- Agreement of bit and state in terms of a view. -/
structure View.BitAgrees (v : View) : Prop where
  synchronized : v.state = .synchronized → v.synchronized = true
  others : v.state = .unassociated ∨ v.state = .configuring ∨ v.state = .configured
    ∨ v.state = .unsynchronized → v.synchronized = false

namespace View.BitAgrees

variable {cfg : Config} {v : View}

lemma of_clear (hs : v.state ≠ .synchronized) (hb : v.synchronized = false) : v.BitAgrees :=
  ⟨fun h => absurd h hs, fun _ => hb⟩

lemma congr {v' : View} (h : v.BitAgrees) (hs : v'.state = v.state)
    (hb : v'.synchronized = v.synchronized) : v'.BitAgrees := by
  obtain ⟨h₁, h₂⟩ := h
  constructor <;> rwa [hs, hb]

lemma lose : v.lose.BitAgrees := of_clear (fun h => by cases h) rfl

lemma synchronize : v.synchronize.BitAgrees where
  synchronized _ := rfl
  others h := by rcases h with h | h | h | h <;> cases h

lemma sync (h : v.BitAgrees) : v.sync.BitAgrees := by
  simp only [View.sync]
  split_ifs
  · exact synchronize
  · exact h.congr rfl rfl

lemma secure (h : v.BitAgrees) : v.secure.BitAgrees := by
  unfold View.secure
  split_ifs
  · exact ⟨(by rintro ⟨⟩), (by rintro (h | h | h | h) <;> cases h)⟩
  · exact h

lemma disconnect (h : v.BitAgrees) (reason : UInt8) : (v.disconnect reason).BitAgrees := by
  unfold View.disconnect
  split_ifs with hloss hc hs
  · exact of_clear (fun h => by cases h) rfl
  · refine of_clear (fun h => by cases h) (h.others ?_)
    rcases hs with hs | hs
    · exact .inr (.inl hs)
    · exact .inl hs
  · exact h
  · exact h

lemma boot (stored : Provision) : (View.boot stored).BitAgrees := by
  simp only [View.boot]
  split_ifs
  · exact lose
  · exact of_clear (fun h => by cases h) rfl

/-! ### The operations that move one of the two -/

/-- A state that is entered with the bit as it is. -/
lemma enter_iff (hs : v.state = .unassociated ∨ v.state = .configuring ∨ v.state = .configured) :
    v.BitAgrees ↔ v.synchronized = false := by
  refine ⟨fun h => h.others ?_, fun hb => of_clear (fun h => ?_) hb⟩
  · rcases hs with hs | hs | hs
    · exact .inl hs
    · exact .inr (.inl hs)
    · exact .inr (.inr (.inl hs))
  · rcases hs with hs | hs | hs <;> rw [hs] at h <;> cases h

/-- Clearing the bit is right outside `SM_SYNCHRONIZED`. -/
lemma clear_iff : View.BitAgrees { v with synchronized := false } ↔ v.state ≠ .synchronized := by
  constructor
  · intro h hs
    cases h.synchronized hs
  · exact fun hs => of_clear hs rfl

lemma provide_iff (h : v.BitAgrees) (c : Characteristic) :
    (v.provide cfg c).checkConfiguring.BitAgrees
      ↔ ((v.provision.add c).Complete → v.synchronized = false) := by
  have hp : (v.provide cfg c).provision = v.provision.add c := rfl
  simp only [View.checkConfiguring, hp]
  split_ifs with hc
  · exact (enter_iff (.inr (.inl rfl))).trans ⟨fun h' _ => h', fun h' => h' hc⟩
  · exact iff_of_true (h.congr rfl rfl) fun h' => absurd h' hc

lemma updateComplete_iff (h : v.BitAgrees) :
    v.updateComplete.BitAgrees
      ↔ (¬ (v.state = .updating ∧ v.synchronized = true) → v.provision.Complete →
          v.synchronized = false) := by
  unfold View.updateComplete
  split_ifs with hu hc
  · exact iff_of_true synchronize fun h' => absurd hu h'
  · exact (enter_iff (.inr (.inr rfl))).trans ⟨fun h' _ _ => h', fun h' => h' hu hc⟩
  · exact iff_of_true h fun _ h' => absurd h' hc

/-- Unassociating leaves the bit to `term_cb`. -/
lemma synchronized_unassociate :
    (v.unassociate cfg).synchronized
      = (v.synchronized && !(v.synced && cfg.termOnDelete)) := by
  simp only [View.unassociate, View.stopSync]
  cases hb : v.synchronized <;> cases hs : v.synced <;> cases ht : cfg.termOnDelete <;>
    simp [View.lose, hb]

lemma unassociate_iff :
    (v.unassociate cfg).BitAgrees
      ↔ (v.synchronized = true → v.synced = true ∧ cfg.termOnDelete = true) := by
  rw [enter_iff (.inl rfl), synchronized_unassociate]
  cases v.synchronized <;> simp

lemma timeout_iff :
    (v.timeout cfg).BitAgrees
      ↔ (v.mode = .unassociated → v.synchronized = true →
          v.synced = true ∧ cfg.termOnDelete = true) := by
  simp only [View.timeout]
  cases hm : v.mode with
  | unsynced =>
      refine iff_of_true ?_ fun h => by cases h
      simp only [View.stopSync]
      split_ifs
      · exact lose
      · exact (lose (v := v)).congr rfl rfl
      · exact lose
  | unassociated =>
      exact unassociate_iff.trans ⟨fun h _ => h, fun h => h rfl⟩

end View.BitAgrees

/-! ## Runs -/

section Runs

variable {cfg : Config} {ead : Ead} {d d' : TagDevice} {e : TagEvent}

lemma EslTag.bitAgrees_iff (t : EslTag) : t.BitAgrees ↔ t.view.BitAgrees :=
  ⟨fun h => ⟨h.synchronized, h.others⟩, fun h => ⟨h.synchronized, h.others⟩⟩

/-- **One step.**  Every event inside the guard keeps bit and state in agreement. -/
theorem bitAgrees_step :
    TransitionSystem.PreservedUnder (TagDevice.step cfg ead) (KeepsBit cfg)
      (fun d => d.tag.view.BitAgrees) := by
  intro d e d' h hg hstep
  have hprov := ConfiguringState.complete_provision d.tag.assoc.configuringState
  have heff := TagDevice.step_effect hstep
  generalize d'.tag.view = v' at heff ⊢
  cases heff with
  | keep => exact h
  | renew => exact h.congr rfl rfl
  | disconnect reason => exact h.disconnect reason
  | secure => exact h.secure
  | provide _ c hc => exact (h.provide_iff c).mpr (hg.write c hc)
  | clearSynchronized env hr => exact View.BitAgrees.clear_iff.mpr (hg.command env rfl hr)
  | updateComplete env hr =>
      exact h.updateComplete_iff.mpr fun hu hc => hg.updateComplete env rfl hr hu (hprov.mp hc)
  | unassociate _ hu => exact View.BitAgrees.unassociate_iff.mpr (hg.unassociate (.inl hu))
  | sync => exact h.sync
  | term => exact .lose
  | timeout =>
      exact View.BitAgrees.timeout_iff.mpr fun hm => hg.unassociate (.inr ⟨rfl, hm⟩)
  | reboot => exact .boot _

/-- Outside the guard they disagree at once. -/
lemma keepsBit_of_bitAgrees (h : d.tag.view.BitAgrees) (hstep : d.step cfg ead e = some d')
    (h' : d'.tag.view.BitAgrees) : KeepsBit cfg d e := by
  have hprov := ConfiguringState.complete_provision d.tag.assoc.configuringState
  rw [TagDevice.step_view hstep] at h'
  refine ⟨?_, fun c hc hall => ?_, ?_, ?_⟩
  · rintro env rfl hr
    rw [TagDevice.viewAfter_of_runsUnassociate hr] at h'
    exact View.BitAgrees.clear_iff.mp h'
  · rw [TagDevice.viewAfter_of_provides hc] at h'
    exact (h.provide_iff c).mp h' hall
  · rintro env rfl hr hu hc
    rw [TagDevice.viewAfter_of_updateComplete hr] at h'
    exact h.updateComplete_iff.mp h' hu (hprov.mpr hc)
  · rintro (hu | ⟨rfl, hm⟩)
    · rw [TagDevice.viewAfter_of_unassociates hu] at h'
      exact View.BitAgrees.unassociate_iff.mp h'
    · exact View.BitAgrees.timeout_iff.mp h' hm

/-- **Synchronized bit.**  From boot, the bit agrees with the state in every state of a run exactly
when every event of the run moves the two together. -/
theorem synchronizedBit_iff (cfg : Config) (ead : Ead) (p : BootParam) (es : List TagEvent) :
    TransitionSystem.AlongRun (TagDevice.step cfg ead) (fun d => d.tag.BitAgrees)
        (TagDevice.boot cfg p) es
      ↔ TransitionSystem.StepsMeet (TagDevice.step cfg ead) (KeepsBit cfg)
          (TagDevice.boot cfg p) es := by
  refine TransitionSystem.alongRun_iff_stepsMeet (I := fun d => d.tag.view.BitAgrees)
    (fun d h => (bitAgrees_iff d.tag).mpr h) bitAgrees_step
    (fun _ _ _ h hstep h' => keepsBit_of_bitAgrees h hstep ((bitAgrees_iff _).mp h')) ?_
  rw [TagDevice.boot, view_btEslInit]
  exact .boot _

end Runs

/-! ### A write while the tag is updated -/

/-- The tag goes from `SM_UPDATING` to `SM_CONFIGURING` and still reports that it is synchronised. -/
theorem synchronizedBit_fails :
    ((TransitionSystem.run (TagDevice.step .sample .clear) (TagDevice.boot .sample {})
        (configuredAndUpdating ++ [.apKeyWrite (.ofBytes (List.replicate 24 0x33))])).map fun d =>
      (d.tag.assoc.eslState, d.tag.basicState.synchronized)) = some (.configuring, true)
    ∧ ¬ TransitionSystem.AlongRun (TagDevice.step .sample .clear) (fun d => d.tag.BitAgrees)
        (TagDevice.boot .sample {})
        (configuredAndUpdating ++ [.apKeyWrite (.ofBytes (List.replicate 24 0x33))]) := by
  have hrun : ((TransitionSystem.run (TagDevice.step .sample .clear) (TagDevice.boot .sample {})
        (configuredAndUpdating ++ [.apKeyWrite (.ofBytes (List.replicate 24 0x33))])).map fun d =>
      (d.tag.assoc.eslState, d.tag.basicState.synchronized)) = some (.configuring, true) := by
    decide +kernel
  refine ⟨hrun, fun hall => ?_⟩
  obtain ⟨d, hproj, hagrees⟩ := hall.exists_of_map hrun
  simp only [Prod.mk.injEq] at hproj
  have hclear := hagrees.others (.inr (.inl hproj.1))
  rw [hproj.2] at hclear
  cases hclear

end NrfEsl
