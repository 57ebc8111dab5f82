import NrfEsl.Association
import NrfEsl.StateGraph

/-!
# Values of one provisioning

A configured tag should hold values of one AP: all four written after the tag last entered
`SM_UNASSOCIATED`.  Which values those are is a history variable (`freshAfter`); the code has the
provisioning bits instead, and only `bt_esl_unassociate` clears them.

**The invariant.**  As long as nothing is left over, the bits *are* the history: a bit is set exactly
for the values written since (`fresh_step`).  Two ways into `SM_UNASSOCIATED` leave values over, with
their bits: a link loss after some of the writes, and a boot that finds some of the values in the
settings.  The guard `NothingLeftOver` rules these out, and the three callbacks that leave
`SM_UNASSOCIATED` without looking at the bits (`GuardsAssociation`).

**Reboots.**  A boot that restores a complete association passes through `SM_UNASSOCIATED`.  Whether
it starts over or continues the association is a parameter (`continues`).
-/

namespace NrfEsl

open EslTag TransitionSystem

/-! ## Specification -/

/-- What a boot makes of the values written so far: it starts over, unless it restores a complete
association and that counts as its continuation. -/
def freshAtBoot (continues : Bool) (d : TagDevice) (fresh : Provision) : Provision :=
  if continues = true ∧ d.tag.assoc.settings.provision.Complete then fresh else {}

/-- The fresh values after an event that enters some states and writes at most one value. -/
def Provision.next (entered : List EslState) (written : Option Characteristic)
    (fresh : Provision) : Provision :=
  if .unassociated ∈ entered then {}
  else
    match written with
    | some c => fresh.add c
    | none => fresh

/-- The values written since the tag last entered `SM_UNASSOCIATED`, after one more event. -/
def freshAfter (cfg : Config) (ead : Ead) (continues : Bool) (d : TagDevice) (e : TagEvent)
    (_ : TagDevice) (fresh : Provision) : Provision :=
  match e with
  | .reboot _ => freshAtBoot continues d fresh
  | e => fresh.next (Recorded.step cfg ead d e).entered e.provides?

/-- The tag, with its history. -/
def stepFresh (cfg : Config) (ead : Ead) (continues : Bool) :
    TagDevice × Provision → TagEvent → Option (TagDevice × Provision) :=
  withHistory (freshAfter cfg ead continues) (TagDevice.step cfg ead)

/-- The values written since `SM_UNASSOCIATED` when the event enters its states. -/
def freshAtEntry (continues : Bool) (x : TagDevice × Provision) : TagEvent → Provision
  | .reboot _ => freshAtBoot continues x.1 x.2
  | _ => x.2

/-- The event enters `SM_CONFIGURED` and `SM_UNSYNCHRONIZED` with four fresh values. -/
def EntersFresh (cfg : Config) (ead : Ead) (continues : Bool) (x : TagDevice × Provision)
    (e : TagEvent) : Prop :=
  .configured ∈ (Recorded.step cfg ead x.1 e).entered
      ∨ .unsynchronized ∈ (Recorded.step cfg ead x.1 e).entered →
    (freshAtEntry continues x e).Complete

/-- A deleted sync is reported while the tag unassociates. -/
def ReportsDeletedSync (cfg : Config) (d : TagDevice) : Prop :=
  d.tag.basicState.synchronized = true ∧ d.tag.assoc.pawrSynced = true ∧ cfg.termOnDelete = true

/-- Nothing is left over from an earlier provisioning. -/
def NothingLeftOver (cfg : Config) (continues : Bool) (x : TagDevice × Provision)
    (e : TagEvent) : Prop :=
  GuardsAssociation x.1 e ∧
    match e with
    -- a link loss that enters `SM_UNASSOCIATED` again finds no provisioning bit set
    | .disconnected reason => x.1.tag.view.CountsAsLoss reason →
        x.1.tag.assoc.eslState = .unassociated → x.1.tag.view.provision = {}
    -- a boot finds no value in the settings, or continues an association
    | .reboot _ => x.1.tag.view.stored = {} ∨ continues = true ∧ x.1.tag.view.stored.Complete
    -- no deleted sync is reported to an unassociated tag
    | .stateTimeout => x.1.tag.assoc.stateTimeoutWork.mode = .unassociated →
        ReportsDeletedSync cfg x.1 → x.1.tag.assoc.eslState ≠ .unassociated
    | e => x.1.Unassociates cfg e →
        ReportsDeletedSync cfg x.1 → x.1.tag.assoc.eslState ≠ .unassociated

/-! ## The bits are the history -/

/-- There is only one complete set of values. -/
lemma Provision.Complete.eq {v w : Provision} (hv : v.Complete) (hw : w.Complete) : v = w := by
  have h : ∀ c, v.has c = w.has c := fun c => (hv c).trans (hw c).symm
  obtain ⟨_, _, _, _⟩ := v
  obtain ⟨_, _, _, _⟩ := w
  simp only [Provision.mk.injEq]
  exact ⟨h .addr, h .apSyncKey, h .responseKey, h .absTime⟩

namespace Provision

variable {entered : List EslState} {written : Option Characteristic} {v : Provision}

lemma next_of_mem (h : .unassociated ∈ entered) : v.next entered written = {} := if_pos h

lemma next_none (h : .unassociated ∉ entered) : v.next entered none = v := if_neg h

lemma next_some (h : .unassociated ∉ entered) (c : Characteristic) :
    v.next entered (some c) = v.add c := if_neg h

end Provision

/-- The bits are set exactly for the fresh values, and the state agrees with them. -/
structure FreshInv (x : TagDevice × Provision) : Prop where
  coherent : x.1.tag.assoc.Coherent
  consistent : x.1.tag.view.Consistent
  fresh : x.2 = x.1.tag.view.provision

namespace FreshInv

variable {cfg : Config} {ead : Ead} {continues : Bool} {x y : TagDevice × Provision} {e : TagEvent}

lemma complete_iff (h : FreshInv x) :
    x.1.tag.assoc.eslState ≠ .unassociated ↔ x.1.tag.view.provision.Complete := by
  have hcoherent : x.1.tag.assoc.eslState = .unassociated ↔ ¬ x.1.tag.view.provision.Complete :=
    (coherent_iff _).mp h.coherent
  rw [Ne, hcoherent, not_not]

/-- A boot has fresh values only, unless it continues an association. -/
lemma freshAtBoot_eq (h : FreshInv x)
    (hg : x.1.tag.view.stored = {} ∨ continues = true ∧ x.1.tag.view.stored.Complete) :
    freshAtBoot continues x.1 x.2 = x.1.tag.view.stored := by
  have hstored : x.1.tag.assoc.settings.provision = x.1.tag.view.stored := rfl
  rw [freshAtBoot, hstored]
  split_ifs with hc
  · have hall : x.1.tag.view.provision.Complete := fun c => h.consistent.stored c (hc.2 c)
    rw [h.fresh, hall.eq hc.2]
  · rcases hg with hg | hg
    · rw [hg]
    · exact absurd hg hc

end FreshInv

section OnViews

variable {cfg : Config} {v : View}

@[simp] lemma View.provision_lose : v.lose.provision = v.provision := rfl
@[simp] lemma View.provision_synchronize : v.synchronize.provision = v.provision := rfl
@[simp] lemma View.provision_unassociate : (v.unassociate cfg).provision = {} := rfl

@[simp] lemma View.provision_stopSync : (v.stopSync cfg).provision = v.provision := by
  unfold View.stopSync
  split_ifs <;> rfl

@[simp] lemma View.provision_checkConfiguring : v.checkConfiguring.provision = v.provision := by
  unfold View.checkConfiguring
  split <;> rfl

lemma View.not_mem_enteredByStopSync {s : EslState} (hs : s ≠ .unsynchronized) :
    s ∉ v.enteredByStopSync cfg := by
  unfold View.enteredByStopSync
  split_ifs <;> simp [hs]

lemma View.mem_enteredByUnassociate : .unassociated ∈ v.enteredByUnassociate cfg := by
  simp [View.enteredByUnassociate]

/-- Unassociating only reports a deleted sync. -/
lemma View.reports_of_mem {s : EslState} (hs : s ≠ .unassociated)
    (h : s ∈ v.enteredByUnassociate cfg) :
    v.synchronized = true ∧ v.synced = true ∧ cfg.termOnDelete = true := by
  simp only [View.enteredByUnassociate, View.enteredByStopSync, List.mem_append,
    List.mem_singleton, hs, or_false] at h
  split_ifs at h with hb hst
  · exact ⟨hb, hst⟩
  · cases h
  · cases h

end OnViews

section Step

variable {cfg : Config} {ead : Ead} {continues : Bool} {x y : TagDevice × Provision} {e : TagEvent}

open TagDevice

/-- The bits after an event: gone after an entry into `SM_UNASSOCIATED`, else one more after a
write. -/
lemma provision_viewAfter (h : FreshInv x) (hg : NothingLeftOver cfg continues x e)
    (hboot : ∀ p, e ≠ .reboot p) :
    (x.1.viewAfter cfg ead e).provision
      = x.1.tag.view.provision.next (x.1.enteredStates cfg e) e.provides? := by
  have hnone : ∀ {l}, .unassociated ∉ l →
      x.1.tag.view.provision = x.1.tag.view.provision.next l none :=
    fun hl => (Provision.next_none hl).symm
  have hnil : x.1.tag.view.provision = x.1.tag.view.provision.next [] none := hnone (by decide)
  have hun : {} = x.1.tag.view.provision.next (x.1.tag.view.enteredByUnassociate cfg) none :=
    (Provision.next_of_mem View.mem_enteredByUnassociate).symm
  have hsome : ∀ c, ((x.1.tag.view.provide cfg c).checkConfiguring).provision
      = x.1.tag.view.provision.next
          (if (x.1.tag.view.provision.add c).Complete then [.configuring] else []) (some c) := by
    intro c
    rw [View.provision_checkConfiguring, Provision.next_some (by split <;> decide)]
    rfl
  cases e with
  | disconnected reason =>
      simp only [viewAfter_disconnected, enteredStates, View.disconnect, View.enteredByDisconnect,
        TagEvent.provides?]
      split_ifs with hloss hc hs
      · exact hnone (by decide)
      · have hu : x.1.tag.assoc.eslState = .unassociated := by
          by_contra hne
          exact hc (h.complete_iff.mp hne)
        rw [Provision.next_of_mem (by decide)]
        exact hg.2 hloss hu
      · exact hnone (by decide)
      · exact hnone (by decide)
  | securityChanged err =>
      cases err with
      | true => exact hnil
      | false =>
          simp only [viewAfter_secured, enteredStates, View.secure, View.enteredBySecure,
            TagEvent.provides?, Bool.false_eq_true, if_false]
          split_ifs
          · exact hnone (by decide)
          · exact hnone (by decide)
  | ecpWork env =>
      simp only [viewAfter_ecpWork, enteredStates, TagEvent.provides?]
      split_ifs with hru hfr huc
      · exact hnone (by decide)
      · exact hun
      · simp only [View.updateComplete, View.enteredByUpdateComplete]
        split_ifs
        · exact hnone (by decide)
        · exact hnone (by decide)
        · exact hnone (by decide)
      · exact hnone (by decide)
  | notifySent =>
      simp only [viewAfter_notifySent, enteredStates, TagEvent.provides?]
      split_ifs with hnext
      · exact hun
      · exact hnone (by decide)
  | syncCb =>
      simp only [viewAfter_syncCb, enteredStates, View.sync, TagEvent.provides?]
      split_ifs
      · exact hnone (by decide)
      · exact hnone (by decide)
  | termCb => exact hnone (l := [.unsynchronized]) (by decide)
  | stateTimeout =>
      simp only [viewAfter_stateTimeout, enteredStates, View.timeout, View.enteredByTimeout, TagEvent.provides?]
      cases x.1.tag.view.mode with
      | unsynced =>
          rw [View.provision_stopSync]
          refine hnone ?_
          simp [View.not_mem_enteredByStopSync]
      | unassociated => exact hun
  | factoryReset | unassociate => exact hun
  | eslAddrWrite w =>
      simp only [viewAfter_eslAddrWrite, enteredStates]
      cases (TagEvent.eslAddrWrite w).provides? with
      | none => exact hnil
      | some c => exact hsome c
  | apKeyWrite | eslRspKeyWrite | absTimeWrite => exact hsome _
  | pawrSyncWork stack =>
      simp only [viewAfter_pawrSyncWork, enteredStates, TagEvent.provides?]
      split_ifs
      · exact hnone (by decide)
      · exact hnone (by decide)
  | parserStep rnd =>
      simp only [viewAfter_parserStep, enteredStates, TagEvent.provides?]
      split_ifs
      · exact hnone (by decide)
      · exact hnone (by decide)
  | reboot p => exact absurd rfl (hboot p)
  | _ => exact hnil

/-- **One step.**  Nothing left over, the bits stay the history. -/
theorem fresh_step :
    PreservedUnder (stepFresh cfg ead continues) (NothingLeftOver cfg continues) FreshInv := by
  intro x e y h hg hstep
  obtain ⟨hd, hy⟩ := withHistory_eq_some.mp hstep
  refine ⟨coherent_step x.1 e y.1 h.coherent hg.1 hd, consistent_step h.consistent hd, ?_⟩
  rw [hy, step_view hd]
  by_cases hboot : ∃ p, e = .reboot p
  · obtain ⟨p, rfl⟩ := hboot
    have hstored : (View.boot x.1.tag.view.stored).provision = x.1.tag.view.stored := by
      simp only [View.boot]
      split <;> rfl
    exact (h.freshAtBoot_eq hg.2).trans hstored.symm
  · have hne : ∀ p, e ≠ .reboot p := fun p hp => hboot ⟨p, hp⟩
    have hfresh : freshAfter cfg ead continues x.1 e y.1 x.2
        = x.2.next (Recorded.step cfg ead x.1 e).entered e.provides? := by
      cases e with
      | reboot p => exact absurd rfl (hne p)
      | _ => rfl
    rw [provision_viewAfter h hg hne, hfresh, Recorded.entered_step hd, h.fresh]

/-- **Nothing left over, the tag is configured with fresh values.** -/
lemma entersFresh (h : FreshInv x) (hg : NothingLeftOver cfg continues x e)
    (hd : x.1.step cfg ead e = some y.1) : EntersFresh cfg ead continues x e := by
  have hbits : x.1.tag.view.provision.Complete → x.2.Complete := fun hc => h.fresh ▸ hc
  have hunassociate : (ReportsDeletedSync cfg x.1 → x.1.tag.assoc.eslState ≠ .unassociated) →
      (.configured ∈ x.1.tag.view.enteredByUnassociate cfg
        ∨ .unsynchronized ∈ x.1.tag.view.enteredByUnassociate cfg) → x.2.Complete := by
    rintro hs (hmem | hmem)
    · exact hbits (h.complete_iff.mp (hs (View.reports_of_mem (by decide) hmem)))
    · exact hbits (h.complete_iff.mp (hs (View.reports_of_mem (by decide) hmem)))
  rw [EntersFresh, Recorded.entered_step hd]
  cases e with
  | disconnected reason =>
      simp only [enteredStates, View.enteredByDisconnect]
      split_ifs with hloss hc hs
      · exact fun _ => hbits hc
      · simp
      · simp
      · simp
  | securityChanged err =>
      simp only [enteredStates, View.enteredBySecure]
      split_ifs <;> simp
  | ecpWork env =>
      simp only [enteredStates]
      split_ifs with hru hfr huc
      · simp
      · exact hunassociate (hg.2 hfr)
      · simp only [View.enteredByUpdateComplete]
        split_ifs with hu hc
        · simp
        · exact fun _ => hbits hc
        · simp
      · simp
  | notifySent =>
      simp only [enteredStates]
      split_ifs with hnext
      · exact hunassociate (hg.2 hnext)
      · simp
  | syncCb =>
      simp only [enteredStates]
      split_ifs <;> simp
  | termCb => exact fun _ => hbits (h.complete_iff.mp hg.1)
  | stateTimeout =>
      have hmode : x.1.tag.view.mode = x.1.tag.assoc.stateTimeoutWork.mode := rfl
      simp only [enteredStates, View.enteredByTimeout, hmode]
      cases hm : x.1.tag.assoc.stateTimeoutWork.mode with
      | unsynced => exact fun _ => hbits (h.complete_iff.mp (hg.1 hm))
      | unassociated => exact hunassociate (hg.2 hm)
  | factoryReset | unassociate => exact hunassociate (hg.2 trivial)
  | reboot p =>
      simp only [enteredStates]
      split_ifs with hc
      · intro _ c
        rw [freshAtEntry, h.freshAtBoot_eq hg.2]
        exact hc c
      · simp
  | eslAddrWrite w =>
      simp only [enteredStates]
      cases (TagEvent.eslAddrWrite w).provides? with
      | none => simp
      | some c =>
          dsimp only
          split_ifs <;> simp
  | apKeyWrite | eslRspKeyWrite | absTimeWrite =>
      simp only [enteredStates, TagEvent.provides?]
      split_ifs <;> simp
  | _ => simp [enteredStates, TagEvent.provides?]

end Step

/-- **No mixed provisioning.**  From a boot with empty settings: in every run in which nothing is
left over from an earlier provisioning, the tag enters `SM_CONFIGURED` and `SM_UNSYNCHRONIZED` only
with four values written since it last entered `SM_UNASSOCIATED`. -/
theorem noMixedProvisioning (cfg : Config) (ead : Ead) (continues : Bool) (p : BootParam)
    (hp : p.settings = {}) (es : List TagEvent)
    (hG : StepsMeet (stepFresh cfg ead continues) (NothingLeftOver cfg continues)
      (TagDevice.boot cfg p, {}) es) :
    StepsMeet (stepFresh cfg ead continues) (EntersFresh cfg ead continues)
      (TagDevice.boot cfg p, {}) es := by
  refine hG.strengthen fresh_step (fun x e y h hg hstep => ?_) ?_
  · exact entersFresh h hg (withHistory_eq_some.mp hstep).1
  · have hview : (btEslInit cfg p).view = View.boot {} := by
      rw [view_btEslInit, hp]
      rfl
    refine ⟨coherent_boot p, TagDevice.consistent_boot p, ?_⟩
    rw [TagDevice.boot, hview]
    rfl

/-- All values are written and then the link is lost. -/
theorem noMixedProvisioning_provisioned :
    StepsMeet (stepFresh .sample .clear true) (EntersFresh .sample .clear true)
      (TagDevice.boot .sample {}, {}) (configuredAndUpdating.take 5 ++ [.disconnected 0x08]) := by
  refine noMixedProvisioning .sample .clear true {} rfl _ ?_
  rintro _ ⟨⟩
  refine ⟨⟨trivial, False.elim⟩, ?_⟩
  rintro _ ⟨⟩
  refine ⟨⟨trivial, False.elim⟩, ?_⟩
  rintro _ ⟨⟩
  refine ⟨⟨trivial, False.elim⟩, ?_⟩
  rintro _ ⟨⟩
  refine ⟨⟨trivial, False.elim⟩, ?_⟩
  rintro _ ⟨⟩
  refine ⟨⟨trivial, False.elim⟩, ?_⟩
  rintro _ ⟨⟩
  exact ⟨⟨trivial, fun _ hu => absurd hu (by decide +kernel)⟩, trivial⟩

/-! ### An address of one AP with the keys of another -/

/-- A first AP writes an address and loses the link, a second one writes the other three values. -/
def twoProvisionings : List TagEvent :=
  [ .connected 0, .eslAddrWrite (.ofBytes [0x01, 0x00]), .disconnected 0x08
  , .connected 0
  , .apKeyWrite (.ofBytes (List.replicate 24 0x33))
  , .eslRspKeyWrite (.ofBytes (List.replicate 24 0x44))
  , .absTimeWrite (.ofBytes [0, 0, 0, 0])
  , .eslControlWrite (.ofBytes [0x04, 0x01]) ]

/-- Update Complete then configures the tag, with the address of the first. -/
theorem noMixedProvisioning_fails :
    ((run (stepFresh .sample .clear true) (TagDevice.boot .sample {}, {})
        twoProvisionings).map fun x =>
      ((Recorded.step .sample .clear x.1 (.ecpWork {})).entered, x.2))
        = some ([.configuring, .configured], ⟨false, true, true, true⟩)
    ∧ ¬ StepsMeet (stepFresh .sample .clear true) (EntersFresh .sample .clear true)
        (TagDevice.boot .sample {}, {}) (twoProvisionings ++ [.ecpWork {}]) := by
  have hrun : ((run (stepFresh .sample .clear true) (TagDevice.boot .sample {}, {})
        twoProvisionings).map fun x =>
      ((Recorded.step .sample .clear x.1 (.ecpWork {})).entered, x.2,
        (x.1.step .sample .clear (.ecpWork {})).isSome))
        = some ([.configuring, .configured], ⟨false, true, true, true⟩, true) := by decide +kernel
  obtain ⟨x, hx, hproj⟩ := Option.map_eq_some_iff.mp hrun
  simp only [Prod.mk.injEq] at hproj
  obtain ⟨hentered, hfresh, henabled⟩ := hproj
  refine ⟨by rw [hx, Option.map_some, hentered, hfresh], fun hall => ?_⟩
  obtain ⟨d', hd'⟩ := Option.isSome_iff_exists.mp henabled
  have hstep : stepFresh .sample .clear true x (.ecpWork {})
      = some (d', freshAfter .sample .clear true x.1 (.ecpWork {}) d' x.2) :=
    withHistory_of_step hd'
  have hcomplete : x.2.Complete :=
    (hall.of_append hx _ hstep).1 (.inl (by rw [hentered]; decide))
  rw [hfresh] at hcomplete
  exact absurd hcomplete (by decide)

end NrfEsl
