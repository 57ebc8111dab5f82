import NrfEsl.Tag.Led

/-!
# What unassociating a tag clears

`bt_esl_unassociate` is reached by the completion callback of an Unassociate command, by the
unassociated timeout, by a factory reset (command, button or shell) and from the shell.  The
service describes it as removing the bond, the keys, the ESL ID and all stored commands.

**What it does.**  Address, keys, settings and all configuring bits are cleared and every LED work
is cancelled, from any state (`btEslUnassociate_association`, `btEslUnassociate_leds`).

**What it leaves.**

* Display works: `led_dwork_reset` runs over all LEDs, `display_dwork_reset` over no display.
* The Synchronized bit, unless stopping the sync clears it on the way through `term_cb`.
* The sync and the PAST subscription, when the Synchronized bit is clear — which
  `OP_UNASSOCIATE` makes sure of before its completion callback comes here.

`unassociate_complete_iff` is the exact condition under which nothing is left.
-/

namespace NrfEsl

open EslTag

/-- Nothing of an association is left. -/
structure Unassociated (cfg : Config) (t : EslTag) : Prop where
  eslState : t.assoc.eslState = .unassociated
  eslAddr : t.assoc.eslAddr = .unset
  eslApKey : t.assoc.eslApKey = .zero
  eslRspKey : t.assoc.eslRspKey = .zero
  settings : t.assoc.settings = {}
  configuringState : t.assoc.configuringState = {}
  synchronized : t.basicState.synchronized = false
  pawrSynced : t.assoc.pawrSynced = false
  pastSubscribed : t.assoc.pastSubscribed = false
  leds : ∀ i < cfg.ledMax, (t.elems.ledDworks i).work = none
  displays : ∀ i < cfg.displayMax, (t.elems.displayWorks i).work = none

/-- When unassociating leaves nothing behind: no display work is scheduled, and the Synchronized
bit tells the truth about the sync, which the stack reports when it is deleted. -/
structure UnassociatesCleanly (cfg : Config) (t : EslTag) : Prop where
  displays : ∀ i < cfg.displayMax, (t.elems.displayWorks i).work = none
  synchronized : t.basicState.synchronized = true →
    t.assoc.pawrSynced = true ∧ cfg.termOnDelete = true
  notSynchronized : t.basicState.synchronized = false →
    t.assoc.pawrSynced = false ∧ t.assoc.pastSubscribed = false

section Fields

variable (cfg : Config) (t : EslTag)

/-! ## Stopping the sync -/

lemma eslStopSyncPawr_sync :
    (t.eslStopSyncPawr cfg).assoc.pawrSynced = false
      ∧ (t.eslStopSyncPawr cfg).assoc.pastSubscribed = false := by
  simp only [eslStopSyncPawr, termCbTail, btEslStateTransition, smUnsynchronizedEntry]
  split_ifs with h <;> first | exact ⟨rfl, rfl⟩ | exact ⟨by simpa using h, rfl⟩

/-- The Synchronized bit survives unless `term_cb` runs. -/
lemma eslStopSyncPawr_synchronized :
    (t.eslStopSyncPawr cfg).basicState.synchronized
      = (t.basicState.synchronized && !(t.assoc.pawrSynced && cfg.termOnDelete)) := by
  simp only [eslStopSyncPawr, termCbTail]
  by_cases hs : t.assoc.pawrSynced <;> by_cases ht : cfg.termOnDelete <;> simp [hs, ht]

/-! ## Elements -/

/-- **All LED works are cancelled.** -/
theorem btEslUnassociate_leds {i : ℕ} (hi : i < cfg.ledMax) :
    ((t.btEslUnassociate cfg).elems.ledDworks i).work = none :=
  congrArg (fun l => l.dwork.work) (led_btEslUnassociate t hi)

/-- **No display work is.** -/
lemma btEslUnassociate_displayWorks :
    (t.btEslUnassociate cfg).elems.displayWorks = t.elems.displayWorks :=
  congrArg Displays.works (displays_btEslUnassociate t)

/-! ## The other fields -/

/-- **Address, keys, settings and bits are cleared from any state.** -/
theorem btEslUnassociate_association :
    let a := (t.btEslUnassociate cfg).assoc
    a.eslState = .unassociated ∧ a.eslAddr = .unset ∧ a.eslApKey = .zero ∧ a.eslRspKey = .zero
      ∧ a.settings = {} ∧ a.configuringState = {} := by
  simp only [btEslUnassociate, btEslStateTransition, smUnassociatedEntry, btEslAdvStart]
  split_ifs <;> simp [eslSettingsDeleteProvisionedData, eslInitProvisionedData]

/-- The sync and the subscription are stopped when the Synchronized bit is set, else kept. -/
lemma btEslUnassociate_sync :
    let a := (t.btEslUnassociate cfg).assoc
    a.pawrSynced = (!t.basicState.synchronized && t.assoc.pawrSynced)
      ∧ a.pastSubscribed = (!t.basicState.synchronized && t.assoc.pastSubscribed) := by
  have hstop := eslStopSyncPawr_sync cfg t
  simp only [btEslUnassociate, btEslStateTransition, smUnassociatedEntry, btEslAdvStart]
  cases hb : t.basicState.synchronized <;>
    split <;> simp [hstop, eslSettingsDeleteProvisionedData, eslInitProvisionedData]

lemma btEslUnassociate_synchronized :
    (t.btEslUnassociate cfg).basicState.synchronized
      = (t.basicState.synchronized && !(t.assoc.pawrSynced && cfg.termOnDelete)) := by
  have hstop := eslStopSyncPawr_synchronized cfg t
  simp only [btEslUnassociate, btEslStateTransition, smUnassociatedEntry, btEslAdvStart]
  split_ifs with h <;>
    simp_all [eslSettingsDeleteProvisionedData, eslInitProvisionedData]

/-- **Exactly when unassociating is complete.** -/
theorem unassociated_btEslUnassociate_iff :
    Unassociated cfg (t.btEslUnassociate cfg) ↔ UnassociatesCleanly cfg t := by
  obtain ⟨hstate, haddr, hap, hrsp, hset, hconf⟩ := btEslUnassociate_association cfg t
  obtain ⟨hsync, hpast⟩ := btEslUnassociate_sync cfg t
  have hbit := btEslUnassociate_synchronized cfg t
  have hdisp := btEslUnassociate_displayWorks cfg t
  constructor
  · intro h
    have hb := h.synchronized
    have hs := h.pawrSynced
    have hp := h.pastSubscribed
    rw [hbit] at hb
    rw [hsync] at hs
    rw [hpast] at hp
    exact
      { displays := by simpa [hdisp] using h.displays
        synchronized := fun hon => by simpa [hon] using hb
        notSynchronized := fun hoff => by simpa [hoff] using And.intro hs hp }
  · intro h
    exact
      { eslState := hstate, eslAddr := haddr, eslApKey := hap, eslRspKey := hrsp
        settings := hset, configuringState := hconf
        synchronized := by
          rw [hbit]
          cases hb : t.basicState.synchronized with
          | false => rfl
          | true => simp [h.synchronized hb]
        pawrSynced := by
          rw [hsync]
          cases hb : t.basicState.synchronized with
          | false => simp [h.notSynchronized hb]
          | true => rfl
        pastSubscribed := by
          rw [hpast]
          cases hb : t.basicState.synchronized with
          | false => simp [h.notSynchronized hb]
          | true => rfl
        leds := fun i hi => btEslUnassociate_leds cfg t hi
        displays := by simpa [hdisp] using h.displays }

end Fields

/-! ## The ways to unassociate -/

/-- The queued command is a Factory Reset the handler carries out. -/
def AcceptsFactoryReset (d : TagDevice) : Prop :=
  d.ecpNetBuf.len = 2 ∧ d.ecpNetBuf.data 0 = 0x03
    ∧ d.ecpNetBuf.data 1 = d.tag.assoc.eslAddr.eslId
    ∧ d.tag.ecp.busy = false ∧ d.tag.assoc.eslState ≠ .synchronized

/-- The event runs `bt_esl_unassociate`. -/
def ReachesUnassociate (d : TagDevice) : TagEvent → Prop
  | .ecpWork _ => AcceptsFactoryReset d
  | .notifySent => ∃ n rest, d.notifications = n :: rest ∧ n.func = .unassociatedCb
  | .stateTimeout => d.tag.assoc.stateTimeoutWork.mode = .unassociated
  | .factoryReset | .unassociate => True
  | _ => False

/-- Deleting the images changes nothing unassociating depends on. -/
lemma unassociatesCleanly_btEslDeleteImages (cfg : Config) (t : EslTag) :
    UnassociatesCleanly cfg (t.btEslDeleteImages cfg) ↔ UnassociatesCleanly cfg t := by
  have hd : (t.btEslDeleteImages cfg).elems.displayWorks = t.elems.displayWorks := by
    unfold btEslDeleteImages
    split <;> rfl
  have hb : (t.btEslDeleteImages cfg).basicState = t.basicState := by
    unfold btEslDeleteImages
    split <;> rfl
  have ha : (t.btEslDeleteImages cfg).assoc = t.assoc := by
    unfold btEslDeleteImages
    split <;> rfl
  constructor
  · intro h
    exact ⟨by simpa [hd] using h.displays, by simpa [hb, ha] using h.synchronized,
      by simpa [hb, ha] using h.notSynchronized⟩
  · intro h
    exact ⟨by simpa [hd] using h.displays, by simpa [hb, ha] using h.synchronized,
      by simpa [hb, ha] using h.notSynchronized⟩

/-- Only some parts of the tag matter for being unassociated. -/
lemma Unassociated.congr {cfg : Config} {t t' : EslTag} (ha : t'.assoc = t.assoc)
    (hb : t'.basicState.synchronized = t.basicState.synchronized) (he : t'.elems = t.elems) :
    Unassociated cfg t' ↔ Unassociated cfg t := by
  constructor <;> rintro ⟨h₁, h₂, h₃, h₄, h₅, h₆, h₇, h₈, h₉, h₁₀, h₁₁⟩
  · rw [ha] at h₁ h₂ h₃ h₄ h₅ h₆ h₈ h₉
    rw [hb] at h₇
    rw [he] at h₁₀ h₁₁
    exact ⟨h₁, h₂, h₃, h₄, h₅, h₆, h₇, h₈, h₉, h₁₀, h₁₁⟩
  · rw [← ha] at h₁ h₂ h₃ h₄ h₅ h₆ h₈ h₉
    rw [← hb] at h₇
    rw [← he] at h₁₀ h₁₁
    exact ⟨h₁, h₂, h₃, h₄, h₅, h₆, h₇, h₈, h₉, h₁₀, h₁₁⟩

/-- A Factory Reset command ends in `bt_esl_factory_reset`. -/
lemma executeCommand_factoryReset (cfg : Config) {d : TagDevice} (h : AcceptsFactoryReset d) :
    d.tag.executeCommand cfg d.ecpNetBuf
      = ({ d.tag.startCommand.btEslFactoryReset cfg with ecp.respNeeded := false }, true) := by
  obtain ⟨hlen, hop, hid, hbusy, hstate⟩ := h
  have hne : d.tag.assoc.eslAddr.eslId ≠ eslAddrBroadcast := d.tag.assoc.eslAddr.eslId_ne_broadcast
  have hlen' : d.ecpNetBuf.len = ecpLen (d.ecpNetBuf.data 0) := by
    rw [hlen, hop]
    decide
  have hmask : (0x03 : UInt8) &&& vendorSpecificStateMask ≠ vendorSpecificStateMask := by decide
  rw [executeCommand_switch hlen' (.inl hid) (by simp [hop, hmask]) hbusy]
  have hstate' : d.tag.startCommand.assoc.eslState ≠ .synchronized := hstate
  rw [commandSwitch_factoryReset _ hop, opFactoryReset, if_neg hstate', hid, if_neg hne]

/-- **Unassociating a tag is complete exactly when it finds no display work scheduled and the
Synchronized bit in step with the sync**, whichever way it is reached and in whatever state. -/
theorem unassociate_complete_iff {cfg : Config} {ead : Ead} {d d' : TagDevice} {e : TagEvent}
    (hstep : d.step cfg ead e = some d') (hreach : ReachesUnassociate d e) :
    Unassociated cfg d'.tag ↔ UnassociatesCleanly cfg d.tag := by
  cases e with
  | ecpWork env =>
      obtain ⟨-, rfl⟩ := TagDevice.step_ecpWork_eq_some.mp hstep
      have hexec := executeCommand_factoryReset cfg hreach
      have htag : (d.ecpCommandHandler cfg env).tag
          = ({ d.tag.startCommand.btEslFactoryReset cfg with
              ecp.respNeeded := false } : EslTag).prepareResponse cfg := by
        simp [TagDevice.ecpCommandHandler, hexec]
      rw [htag, Unassociated.congr (t := d.tag.startCommand.btEslFactoryReset cfg) (by simp)
        (by simp only [prepareResponse]; split <;> rfl)
        (by simp only [prepareResponse]; split <;> rfl), btEslFactoryReset,
        unassociated_btEslUnassociate_iff, unassociatesCleanly_btEslDeleteImages]
      constructor <;> exact fun h => ⟨h.displays, h.synchronized, h.notSynchronized⟩
  | notifySent =>
      obtain ⟨n, rest, hn, hf⟩ := hreach
      simp only [TagDevice.step, hn] at hstep
      cases hstep
      simp only [TagDevice.notifyComplete, hf]
      have hcb : Unassociated cfg { d.tag.btEslUnassociate cfg with ecp.notifyFunc := none }
          ↔ Unassociated cfg (d.tag.btEslUnassociate cfg) := Unassociated.congr rfl rfl rfl
      exact hcb.trans (unassociated_btEslUnassociate_iff cfg d.tag)
  | stateTimeout =>
      obtain ⟨-, rfl⟩ := TagDevice.step_stateTimeout_eq_some.mp hstep
      have hm : d.tag.assoc.stateTimeoutWork.mode = .unassociated := hreach
      simp only [TagDevice.onTag, eslStateTimeoutWorkFn, hm, unassociated_btEslUnassociate_iff]
      constructor <;> exact fun h => ⟨h.displays, h.synchronized, h.notSynchronized⟩
  | factoryReset =>
      cases hstep
      exact (unassociated_btEslUnassociate_iff cfg _).trans
        (unassociatesCleanly_btEslDeleteImages cfg d.tag)
  | unassociate =>
      cases hstep
      exact unassociated_btEslUnassociate_iff cfg d.tag
  | _ => exact absurd hreach id

/-- A tag gets an address, both keys and the time, an LED is to flash, and the link is lost. -/
def provisionedAndLost : List TagEvent :=
  configuredAndUpdating.take 5 ++
    [ .eslControlWrite (.ofBytes (flashOnce 1)), .ecpWork {}
    , .disconnected 0x08 ]

/-- This tag has much to forget, but no sync, subscription or display work: it unassociates
completely. -/
theorem unassociate_complete_provisioned :
    ((TransitionSystem.run (TagDevice.step .sample .clear) (TagDevice.boot .sample {})
        provisionedAndLost).map fun d =>
      (d.tag.assoc.eslState, d.tag.assoc.eslAddr.val, (d.tag.elems.ledDworks 0).work))
        = some (.unsynchronized, 1, some 0)
    ∧ ∀ d, TransitionSystem.run (TagDevice.step .sample .clear) (TagDevice.boot .sample {})
        provisionedAndLost = some d →
      Unassociated .sample (d.onTag (EslTag.btEslUnassociate .sample)).tag := by
  refine ⟨by decide +kernel, fun d hd => ?_⟩
  have hrun : ((TransitionSystem.run (TagDevice.step .sample .clear) (TagDevice.boot .sample {})
        provisionedAndLost).map fun d =>
      (d.tag.basicState.synchronized, d.tag.assoc.pawrSynced, d.tag.assoc.pastSubscribed,
        (d.tag.elems.displayWorks 0).work)) = some (false, false, false, none) := by
    decide +kernel
  rw [hd, Option.map_some, Option.some_inj, Prod.mk.injEq, Prod.mk.injEq, Prod.mk.injEq] at hrun
  obtain ⟨hbit, hsynced, hsubscribed, hwork⟩ := hrun
  have hstep : d.step .sample .clear .unassociate
      = some (d.onTag (EslTag.btEslUnassociate .sample)) := rfl
  refine (unassociate_complete_iff hstep trivial).mpr
    ⟨fun i hi => ?_, fun h => ?_, fun _ => ⟨hsynced, hsubscribed⟩⟩
  · have hzero : i = 0 := Nat.lt_one_iff.mp hi
    rw [hzero]
    exact hwork
  · rw [hbit] at h
    cases h

/-- A timed image for display 0 at absolute time 5000, then Unassociate, over the Control Point
of a tag in `SM_UPDATING`. -/
def timedImageThenUnassociate : List TagEvent :=
  [ .eslControlWrite (.ofBytes [0x60, 0x01, 0x00, 0x00, 0x88, 0x13, 0x00, 0x00]), .ecpWork {}
  , .notifySent
  , .eslControlWrite (.ofBytes [0x01, 0x01]), .ecpWork {}, .notifySent ]

/-- The completion callback leaves the sync running and the timed image scheduled. -/
theorem unassociate_incomplete :
    ((TransitionSystem.run (TagDevice.step .sample .clear) (TagDevice.boot .sample {})
        (configuredAndUpdating ++ timedImageThenUnassociate)).map fun d =>
      (d.tag.assoc.eslState, d.tag.assoc.pawrSynced, (d.tag.elems.displayWorks 0).work))
        = some (.unassociated, true, some 5000)
    ∧ ∀ d, TransitionSystem.run (TagDevice.step .sample .clear) (TagDevice.boot .sample {})
        (configuredAndUpdating ++ timedImageThenUnassociate) = some d →
      ¬ Unassociated .sample d.tag := by
  have hrun : ((TransitionSystem.run (TagDevice.step .sample .clear) (TagDevice.boot .sample {})
        (configuredAndUpdating ++ timedImageThenUnassociate)).map fun d =>
      (d.tag.assoc.eslState, d.tag.assoc.pawrSynced, (d.tag.elems.displayWorks 0).work))
        = some (.unassociated, true, some 5000) := by decide +kernel
  refine ⟨hrun, fun d hd h => ?_⟩
  rw [hd, Option.map_some, Option.some.injEq, Prod.mk.injEq, Prod.mk.injEq] at hrun
  rw [h.pawrSynced] at hrun
  exact absurd hrun.2.1 (by decide)

end NrfEsl
