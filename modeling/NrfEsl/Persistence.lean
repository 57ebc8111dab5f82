import NrfEsl.PendingTimed
import NrfEsl.Tag.Settings

/-!
# Provisioned data over reboots

A reboot should find the tag as it was: the address, the two keys and the four provisioning bits come
back from flash, and the tag starts in `SM_UNSYNCHRONIZED` if it had all four values.

**Two descriptions of the store.**  The handlers of the tag update `Settings`, the values themselves.
`FlashedTag` puts the flash of `esl_settings.c` beside it, saved and deleted byte by byte where the
source does, and boots from it.

**The invariant** (`mirrors_step`).  The flash decodes to the settings, and RAM holds what the settings
hold, or the values of an unassociated tag where they hold nothing.  Only the four writes and
`bt_esl_unassociate` touch either of them (`provisioned_step`).
-/

namespace NrfEsl

open EslTag TransitionSystem KeyValueStore

/-! ## The tag with its flash -/

namespace EslTag

/-- `bt_esl_init` up to `esl_settings_init`, which loads the flash. -/
def restoredFrom (cfg : Config) (E : Enumeration SettingsName (List UInt8)) (p : BootParam)
    (flash : Flash) : EslTag :=
  let t := { cleared p with basicState.serviceNeeded := cfg.condServiceRequired }
  let t := (t.ledDworkResetAll cfg).displayDworkResetAll cfg
  t.smUnassociatedEntry.eslInitProvisionedData.settingsLoadSubtree E flash

/-- `bt_esl_init` -/
def btEslInitFrom (cfg : Config) (E : Enumeration SettingsName (List UInt8)) (p : BootParam)
    (flash : Flash) : EslTag :=
  match (restoredFrom cfg E p flash).eslIsConfiguringState cfg with
  | (false, t) => if cfg.hasDisplayUnassociated then t.emit .displayUnassociated else t
  | (true, t) =>
      let t := if cfg.hasDisplayAssociated then t.emit .displayAssociated else t
      t.btEslStateTransition cfg .unsynchronized

end EslTag

/-- The tag, and its settings partition. -/
structure FlashedTag where
  device : TagDevice
  flash : Flash

/-- What a handler writes to the flash. -/
def TagDevice.flashAfter (cfg : Config) (d : TagDevice) (e : TagEvent) (d' : TagDevice)
    (flash : Flash) : Flash :=
  match e with
  | .eslAddrWrite w =>
      match (d.tag.eslAddrWrite cfg w).1 with
      | .ok _ => if cfg.forgetProvisionData then flash else d'.tag.eslSettingsAddrSave flash
      | .error _ => flash
  | .apKeyWrite _ =>
      if cfg.forgetProvisionData then flash else d'.tag.eslSettingsApKeySave flash
  | .eslRspKeyWrite _ =>
      if cfg.forgetProvisionData then flash else d'.tag.eslSettingsRspKeySave flash
  | .absTimeWrite _ => if cfg.forgetProvisionData then flash else eslSettingsAbsSave flash
  | e => if d.unassociates cfg e then flashDeleteProvisionedData flash else flash

namespace FlashedTag

variable (cfg : Config) (ead : Ead) (E : Enumeration SettingsName (List UInt8))

/-- A boot from the flash as it is. -/
def boot (p : BootParam) (flash : Flash) : FlashedTag where
  device :=
    { TagDevice.boot cfg p with
      tag := btEslInitFrom cfg E { p with settings := storedSettings flash } flash }
  flash := flash

/-- One event. -/
def step (x : FlashedTag) (e : TagEvent) : Option FlashedTag :=
  match e with
  | .reboot p => some (boot cfg E p x.flash)
  | e => (x.device.step cfg ead e).map fun d' => ⟨d', x.device.flashAfter cfg e d' x.flash⟩

end FlashedTag

/-! ## Specification -/

/-- Which values were written and not deleted since, after one more event. -/
def writtenAfter (cfg : Config) (x : FlashedTag) (e : TagEvent) (_ : FlashedTag)
    (written : Provision) : Provision :=
  match e.provides? with
  | some c => written.add c
  | none => if x.device.unassociates cfg e then {} else written

/-- The tag with its flash, and which values were written. -/
def stepWritten (cfg : Config) (ead : Ead) (E : Enumeration SettingsName (List UInt8)) :
    FlashedTag × Provision → TagEvent → Option (FlashedTag × Provision) :=
  withHistory (writtenAfter cfg) (FlashedTag.step cfg ead E)

/-- The values and the four bits of a tag `t'` that boots are those of the tag before. -/
structure Restores (written : Provision) (t t' : EslTag) : Prop where
  eslAddr : t'.assoc.eslAddr = t.assoc.eslAddr
  eslApKey : t'.assoc.eslApKey = t.assoc.eslApKey
  eslRspKey : t'.assoc.eslRspKey = t.assoc.eslRspKey
  bits : t'.assoc.configuringState.provision = t.assoc.configuringState.provision
  /-- A value that was never written, or is deleted, is that of an unassociated tag. -/
  unset : (written.addr = false → t'.assoc.eslAddr.val = 0x8000)
    ∧ (written.apSyncKey = false → t'.assoc.eslApKey = .zero)
    ∧ (written.responseKey = false → t'.assoc.eslRspKey = .zero)
  state : t'.assoc.eslState =
    if t.assoc.configuringState.provision.Complete then .unsynchronized else .unassociated

/-! ## What the handlers do to the provisioned data -/

/-- The provisioned data of a tag: in RAM, and in the settings. -/
structure ProvisionedData where
  eslAddr : EslAddr
  eslApKey : KeyMaterial
  eslRspKey : KeyMaterial
  bits : Provision
  settings : Settings

/-- Nothing is provisioned. -/
def ProvisionedData.none : ProvisionedData := ⟨.unset, .zero, .zero, {}, {}⟩

namespace EslTag

def provisioned (t : EslTag) : ProvisionedData :=
  ⟨t.assoc.eslAddr, t.assoc.eslApKey, t.assoc.eslRspKey, t.assoc.configuringState.provision,
    t.assoc.settings⟩

section Frame

variable {cfg : Config} (t : EslTag)

lemma provisioned_of_assoc {t t' : EslTag} (h : t'.assoc = t.assoc) :
    t'.provisioned = t.provisioned := by
  rw [provisioned, h, provisioned]

@[simp] lemma provisioned_btEslStateTransition (state : EslState) :
    (t.btEslStateTransition cfg state).provisioned = t.provisioned := by
  cases state with
  | synchronized =>
      have hstop : ∀ t : EslTag, (t.btEslDisconnect.btEslAdvStop cfg).provisioned = t.provisioned :=
        fun t => provisioned_of_assoc ((assoc_btEslAdvStop _).trans (assoc_btEslDisconnect t))
      simp only [btEslStateTransition, smSynchronizedEntry]
      split
      · exact hstop _
      · exact hstop _
  | unsynchronized =>
      simp only [btEslStateTransition, smUnsynchronizedEntry]
      split <;> rfl
  | _ => rfl

@[simp] lemma provisioned_eslIsConfiguringState :
    (t.eslIsConfiguringState cfg).2.provisioned = t.provisioned := by
  simp only [eslIsConfiguringState]
  split
  · exact provisioned_btEslStateTransition t _
  · rfl

@[simp] lemma provisioned_termCbTail : (t.termCbTail cfg).provisioned = t.provisioned :=
  provisioned_btEslStateTransition _ _

@[simp] lemma provisioned_eslStopSyncPawr :
    (t.eslStopSyncPawr cfg).provisioned = t.provisioned := by
  simp only [eslStopSyncPawr]
  split
  · split
    · exact provisioned_termCbTail _
    · rfl
  · rfl

/-- **`bt_esl_unassociate` clears everything.** -/
@[simp] lemma provisioned_btEslUnassociate :
    (t.btEslUnassociate cfg).provisioned = .none := by
  have hclear : ∀ t : EslTag,
      t.eslInitProvisionedData.eslSettingsDeleteProvisionedData.provisioned = .none := fun _ => rfl
  have hreset : ∀ t : EslTag, (t.ledDworkResetAll cfg).provisioned = t.provisioned :=
    fun t => provisioned_of_assoc (assoc_ledDworkResetAll t)
  simp only [btEslUnassociate, provisioned_btEslStateTransition]
  split
  · exact (hreset _).trans (hclear _)
  · exact (hreset _).trans (hclear _)

@[simp] lemma provisioned_btEslFactoryReset :
    (t.btEslFactoryReset cfg).provisioned = .none := provisioned_btEslUnassociate _

/-! The four writes. -/

lemma ok_eslAddrWrite {w : AttWrite}
    (hid : lowByte (sysGetLe16 w.buf.data 0 &&& 0x7FFF) ≠ eslAddrBroadcast) :
    (t.eslAddrWrite cfg w).1 = .ok 2 := by
  simp only [eslAddrWrite, dif_neg hid]

lemma provisioned_eslAddrWrite {w : AttWrite} (hforget : cfg.forgetProvisionData = false)
    (hid : lowByte (sysGetLe16 w.buf.data 0 &&& 0x7FFF) ≠ eslAddrBroadcast) :
    (t.eslAddrWrite cfg w).2.provisioned =
      { t.provisioned with
        eslAddr := ⟨_, hid⟩
        bits := t.provisioned.bits.add .addr
        settings.eslAddr := some ⟨_, hid⟩ } := by
  simp only [eslAddrWrite, dif_neg hid, provisioned_eslIsConfiguringState, hforget]
  rfl

lemma provisioned_apKeyWrite {w : AttWrite} (hforget : cfg.forgetProvisionData = false) :
    (t.apKeyWrite cfg w).2.provisioned =
      { t.provisioned with
        eslApKey := storedKey w
        bits := t.provisioned.bits.add .apSyncKey
        settings.eslApKey := some (storedKey w) } := by
  simp only [apKeyWrite, provisioned_eslIsConfiguringState, hforget]
  rfl

lemma provisioned_eslRspKeyWrite {w : AttWrite} (hforget : cfg.forgetProvisionData = false) :
    (t.eslRspKeyWrite cfg w).2.provisioned =
      { t.provisioned with
        eslRspKey := storedKey w
        bits := t.provisioned.bits.add .responseKey
        settings.eslRspKey := some (storedKey w) } := by
  simp only [eslRspKeyWrite, provisioned_eslIsConfiguringState, hforget]
  rfl

lemma provisioned_absTimeWrite {w : AttWrite} (hforget : cfg.forgetProvisionData = false) :
    (t.absTimeWrite cfg w).2.provisioned =
      { t.provisioned with
        bits := t.provisioned.bits.add .absTime
        settings.eslAbsTime := true } := by
  simp only [absTimeWrite, provisioned_eslIsConfiguringState, hforget]
  rfl

/-! The other handlers. -/

lemma provisioned_syncCb : (t.syncCb cfg).provisioned = t.provisioned := by
  simp only [syncCb]
  split
  · have henter : ∀ t : EslTag,
        (t.btEslStateTransition cfg .synchronized).provisioned = t.provisioned :=
      fun t => provisioned_btEslStateTransition t .synchronized
    split
    · exact (henter _).trans rfl
    · exact (henter _).trans rfl
  · rfl

lemma provisioned_connected (err : UInt8) : (t.connected cfg err).provisioned = t.provisioned := by
  simp only [connected]
  split_ifs <;> rfl

lemma provisioned_disconnected (reason : UInt8) :
    (t.disconnected cfg reason).provisioned = t.provisioned := by
  have hstate : ∀ t : EslTag, (t.disconnectedState cfg reason).provisioned = t.provisioned := by
    intro t
    simp only [disconnectedState, eslIsConfiguringState]
    split_ifs
    · rfl
    · rw [provisioned_btEslStateTransition]
      exact provisioned_btEslStateTransition _ _
    · dsimp only
      split
      · exact provisioned_btEslStateTransition _ _
      · rfl
    · rfl
  simp only [disconnected]
  split
  · exact hstate _
  · exact hstate _

lemma provisioned_securityChanged (err : Bool) :
    (t.securityChanged cfg err).provisioned = t.provisioned := by
  simp only [securityChanged]
  split_ifs
  · rfl
  · exact provisioned_btEslStateTransition _ _
  · rfl

lemma provisioned_eslStateTimeoutWorkFn : (t.eslStateTimeoutWorkFn cfg).provisioned
    = if t.assoc.stateTimeoutWork.mode = .unassociated then .none else t.provisioned := by
  cases hm : t.assoc.stateTimeoutWork.mode with
  | unsynced =>
      simp only [eslStateTimeoutWorkFn, hm]
      rw [provisioned_eslStopSyncPawr, provisioned_btEslStateTransition]
      rfl
  | unassociated =>
      simp only [eslStateTimeoutWorkFn, hm]
      exact provisioned_btEslUnassociate t

lemma provisioned_eslAdvertisingFn : (t.eslAdvertisingFn cfg).provisioned = t.provisioned := by
  simp only [eslAdvertisingFn]
  split_ifs <;> rfl

/-- Factory Reset is the one command that clears the data. -/
lemma provisioned_commandSwitch (cmd : Mem) : (t.commandSwitch cfg cmd).provisioned
    = if cmd 0 = EslOpCode.factoryReset.toByte ∧ t.assoc.eslState ≠ .synchronized
        ∧ cmd 1 ≠ eslAddrBroadcast then .none else t.provisioned := by
  unfold commandSwitch
  cases hop : EslOpCode.ofByte? (cmd 0) with
  | none =>
      have hne : cmd 0 ≠ EslOpCode.factoryReset.toByte := fun h => by
        rw [EslOpCode.ofByte?_eq_some.mpr h] at hop
        cases hop
      rw [if_neg fun h => hne h.1]
      exact provisioned_of_assoc (assoc_opDefault t _)
  | some op =>
      have hbyte := EslOpCode.ofByte?_eq_some.mp hop
      have hother : op ≠ .factoryReset → ¬ (cmd 0 = EslOpCode.factoryReset.toByte
          ∧ t.assoc.eslState ≠ .synchronized ∧ cmd 1 ≠ eslAddrBroadcast) := by
        rintro hne ⟨h, -⟩
        rw [EslOpCode.ofByte?_eq_some.mpr h] at hop
        exact hne (Option.some.inj hop).symm
      cases op with
      | factoryReset =>
          by_cases hs : t.assoc.eslState = .synchronized
          · rw [if_neg fun h => h.2.1 hs]
            simp only [opFactoryReset, if_pos hs]
            rfl
          by_cases hb : cmd 1 = eslAddrBroadcast
          · rw [if_neg fun h => h.2.2 hb]
            simp only [opFactoryReset, if_neg hs, if_pos hb]
            rfl
          · rw [if_pos ⟨hbyte, hs, hb⟩]
            simp only [opFactoryReset, if_neg hs, if_neg hb]
            exact provisioned_btEslFactoryReset t
      | updateComplete =>
          rw [if_neg (hother (by decide))]
          simp only [opUpdateComplete, eslIsConfiguringState]
          split_ifs
          · exact provisioned_btEslStateTransition _ _
          · exact (provisioned_btEslStateTransition _ _).trans (provisioned_btEslStateTransition _ _)
          · rfl
      | _ =>
          rw [if_neg (hother (by decide))]
          first
            | rfl
            | exact provisioned_of_assoc (by simp)

end Frame

end EslTag

/-! ## Events -/

/-- The event is an accepted write, or a boot. -/
def TagEvent.WritesOrBoots : TagEvent → Prop
  | .eslAddrWrite w => lowByte (sysGetLe16 w.buf.data 0 &&& 0x7FFF) ≠ eslAddrBroadcast
  | .apKeyWrite _ | .eslRspKeyWrite _ | .absTimeWrite _ | .reboot _ => True
  | _ => False

namespace TagDevice

section Step

variable {cfg : Config} {ead : Ead} {d d' : TagDevice} {e : TagEvent}

lemma provisioned_ecpCommandHandler (env : HandlerEnv) :
    (d.ecpCommandHandler cfg env).tag.provisioned
      = if d.RunsFactoryReset cfg then .none else d.tag.provisioned := by
  have hprepare : ∀ t : EslTag, (t.prepareResponse cfg).provisioned = t.provisioned :=
    fun t => provisioned_of_assoc (assoc_prepareResponse t)
  have hframe := ecpCommandHandler_frame d provisioned hprepare env
  rw [hframe]
  by_cases hsw : d.tag.ReachesSwitch cfg d.ecpNetBuf
  · rw [hsw.executeCommand, provisioned_commandSwitch]
    simp only [RunsFactoryReset, Runs, hsw, true_and]
    rfl
  · rw [if_neg fun h => hsw h.1.1]
    exact provisioned_of_assoc (untouched_executeCommand hsw).assoc

lemma provisioned_pawrSyncWorkFn (stack : Mem) :
    (d.pawrSyncWorkFn cfg ead stack).tag.provisioned = d.tag.provisioned := by
  simp only [pawrSyncWorkFn]
  split_ifs
  · rw [tag_beginPacket]
  · simp only [renewTimeout, tag_beginPacket]
    rfl
  · rfl

lemma provisioned_parserStep {rnd : Randomness} (h : d.parserStep cfg ead rnd = some d') :
    d'.tag.provisioned = d.tag.provisioned := by
  cases parserTurn h with
  | move => rfl
  | dispatch => rfl
  | finish =>
      simp only [endPacket, setPawrResponse]
      split <;> rfl

/-- **Only writes, boots and `bt_esl_unassociate` touch the provisioned data.** -/
theorem provisioned_step (h : d.step cfg ead e = some d') (hother : ¬ e.WritesOrBoots) :
    d'.tag.provisioned = if d.unassociates cfg e then .none else d.tag.provisioned := by
  cases e with
  | tick | imageWritten | busy =>
      cases h
      rfl
  | connected err =>
      cases h
      exact provisioned_connected d.tag err
  | disconnected reason =>
      cases h
      exact provisioned_disconnected d.tag reason
  | securityChanged err =>
      cases h
      exact provisioned_securityChanged d.tag err
  | eslAddrWrite w =>
      cases h
      have hid : lowByte (sysGetLe16 w.buf.data 0 &&& 0x7FFF) = eslAddrBroadcast := not_not.mp hother
      simp only [onTag, EslTag.eslAddrWrite, dif_pos hid]
      rfl
  | apKeyWrite | eslRspKeyWrite | absTimeWrite => exact absurd trivial hother
  | reboot p => exact absurd trivial hother
  | eslControlWrite w =>
      cases h
      rw [tag_eslControlWrite]
      rfl
  | ecpWork env =>
      obtain ⟨-, rfl⟩ := step_ecpWork_eq_some.mp h
      rw [provisioned_ecpCommandHandler, unassociates]
      by_cases hr : d.RunsFactoryReset cfg
      · rw [if_pos hr, if_pos (decide_eq_true hr)]
      · rw [if_neg hr, if_neg (by simpa using hr)]
  | notifySent =>
      obtain ⟨n, rest, hn, rfl⟩ := step_notifySent_eq_some.mp h
      cases hf : n.func with
      | unassociatedCb =>
          have hnext : d.UnassociatedCbNext := by simp [UnassociatedCbNext, hn, hf]
          rw [unassociates, if_pos (decide_eq_true hnext)]
          exact provisioned_btEslUnassociate d.tag
      | notifyCb =>
          have hnext : ¬ d.UnassociatedCbNext := by simp [UnassociatedCbNext, hn, hf]
          rw [unassociates, if_neg (by simpa using hnext)]
          rfl
  | syncCb =>
      cases h
      exact provisioned_syncCb d.tag
  | termCb =>
      cases h
      exact (provisioned_termCbTail _).trans (provisioned_eslStopSyncPawr _)
  | recvCb counter subevent buf =>
      cases h
      exact provisioned_of_assoc (assoc_recvCb d counter subevent buf)
  | pawrSyncWork stack =>
      obtain ⟨-, rfl⟩ := step_pawrSyncWork_eq_some.mp h
      exact provisioned_pawrSyncWorkFn stack
  | parserStep rnd => exact provisioned_parserStep h
  | stateTimeout =>
      obtain ⟨-, rfl⟩ := step_stateTimeout_eq_some.mp h
      simp only [unassociates, decide_eq_true_eq]
      exact provisioned_eslStateTimeoutWorkFn _
  | ledWork idx =>
      obtain ⟨-, rfl⟩ := step_ledWork_eq_some.mp h
      exact provisioned_of_assoc (assoc_ledDelayWorkerFn d.tag idx)
  | displayWork idx =>
      obtain ⟨-, rfl⟩ := step_displayWork_eq_some.mp h
      exact provisioned_of_assoc (assoc_displayDelayWorkerFn d.tag idx)
  | advWork =>
      obtain ⟨-, rfl⟩ := step_advWork_eq_some.mp h
      exact provisioned_eslAdvertisingFn d.tag
  | factoryReset =>
      cases h
      exact provisioned_btEslFactoryReset d.tag
  | unassociate =>
      cases h
      exact provisioned_btEslUnassociate d.tag

end Step

end TagDevice

/-! ## Boots -/

/-- What a tag holds whose store holds these values. -/
def ProvisionedData.of (s : Settings) : ProvisionedData :=
  ⟨s.eslAddr.getD .unset, s.eslApKey.getD .zero, s.eslRspKey.getD .zero, s.provision, s⟩

section Boot

variable {cfg : Config} {E : Enumeration SettingsName (List UInt8)}

lemma provisioned_restore (s : Settings) (t : EslTag) : (t.restore s).provisioned
    = ⟨s.eslAddr.getD t.assoc.eslAddr, s.eslApKey.getD t.assoc.eslApKey,
        s.eslRspKey.getD t.assoc.eslRspKey,
        ⟨t.assoc.configuringState.addrSet || s.eslAddr.isSome,
          t.assoc.configuringState.apSyncKeySet || s.eslApKey.isSome,
          t.assoc.configuringState.responseKeySet || s.eslRspKey.isSome,
          t.assoc.configuringState.absTimeSet || s.eslAbsTime⟩, t.assoc.settings⟩ := rfl

/-- **Booting from the flash** is booting with the values that it holds. -/
lemma restoredFrom_eq {p : BootParam} {flash : Flash} (hp : p.settings = storedSettings flash) :
    restoredFrom cfg E p flash = restored cfg p := by
  have hsettings : ∀ t : EslTag, t.assoc.settings = p.settings →
      t.settingsLoadSubtree E flash = t.loadSettings := by
    intro t ht
    rw [settingsLoadSubtree_eq, loadSettings_eq_restore, ht, hp]
  refine hsettings _ ?_
  have hreset : ∀ t : EslTag, ((t.ledDworkResetAll cfg).displayDworkResetAll cfg).assoc = t.assoc :=
    fun t => (assoc_displayDworkResetAll _).trans (assoc_ledDworkResetAll t)
  exact congrArg Assoc.settings (hreset _)

lemma device_boot (p : BootParam) (flash : Flash) : (FlashedTag.boot cfg E p flash).device
    = TagDevice.boot cfg { p with settings := storedSettings flash } := by
  have hinit : btEslInitFrom cfg E { p with settings := storedSettings flash } flash
      = btEslInit cfg { p with settings := storedSettings flash } := by
    rw [btEslInitFrom, restoredFrom_eq rfl]
    rfl
  rw [FlashedTag.boot, hinit]
  rfl

lemma provisioned_restored (p : BootParam) :
    (restored cfg p).provisioned = .of p.settings := by
  have hreset : ∀ t : EslTag, ((t.ledDworkResetAll cfg).displayDworkResetAll cfg).assoc = t.assoc :=
    fun t => (assoc_displayDworkResetAll _).trans (assoc_ledDworkResetAll t)
  have hload : ∀ t : EslTag, t.assoc = (cleared p).assoc →
      t.smUnassociatedEntry.eslInitProvisionedData.loadSettings.provisioned = .of p.settings := by
    intro t ht
    have hbits : t.assoc.configuringState = {} := congrArg Assoc.configuringState ht
    have hsettings : t.smUnassociatedEntry.eslInitProvisionedData.assoc.settings = p.settings :=
      congrArg Assoc.settings ht
    rw [loadSettings_eq_restore, provisioned_restore, hsettings]
    have hstart : t.smUnassociatedEntry.eslInitProvisionedData.assoc.configuringState = {} := hbits
    rw [hstart]
    rfl
  exact hload _ (hreset _)

/-- A boot makes RAM hold what the flash holds. -/
lemma provisioned_boot (p : BootParam) (flash : Flash) :
    (FlashedTag.boot cfg E p flash).device.tag.provisioned = .of (storedSettings flash) := by
  rw [device_boot]
  have hinit : ∀ p : BootParam, (btEslInit cfg p).provisioned = (restored cfg p).provisioned := by
    intro p
    have hshow : ∀ (t : EslTag) (c : Bool) (o : TagOutput),
        (if c = true then t.emit o else t).provisioned = t.provisioned := by
      intro t c o
      split <;> rfl
    by_cases hb : (restored cfg p).assoc.configuringState.Provisioned
    · rw [btEslInit, eslIsConfiguringState, if_pos hb]
      dsimp only
      rw [provisioned_btEslStateTransition, hshow, provisioned_btEslStateTransition]
    · rw [btEslInit, eslIsConfiguringState, if_neg hb]
      exact hshow _ _ _
  exact (hinit _).trans (provisioned_restored _)

/-- It starts in `SM_UNSYNCHRONIZED` if all four values are there. -/
lemma eslState_boot (p : BootParam) (flash : Flash) :
    (FlashedTag.boot cfg E p flash).device.tag.assoc.eslState
      = if (storedSettings flash).provision.Complete then .unsynchronized else .unassociated := by
  have hview : (btEslInit cfg { p with settings := storedSettings flash }).view
      = View.boot (storedSettings flash).provision := view_btEslInit _
  rw [device_boot]
  refine (congrArg View.state hview).trans ?_
  simp only [View.boot]
  split <;> rfl

end Boot

/-! ## Runs -/

section Runs

variable {cfg : Config} {ead : Ead} {E : Enumeration SettingsName (List UInt8)}

/-- RAM holds what the flash holds, and that is what was written. -/
structure Mirrors (x : FlashedTag × Provision) : Prop where
  ram : x.1.device.tag.provisioned = .of (storedSettings x.1.flash)
  written : (storedSettings x.1.flash).provision = x.2

lemma step_eq_some {x y : FlashedTag} {e : TagEvent} (hboot : ∀ p, e ≠ .reboot p)
    (h : x.step cfg ead E e = some y) :
    ∃ d', x.device.step cfg ead e = some d' ∧ y = ⟨d', x.device.flashAfter cfg e d' x.flash⟩ := by
  have hmap : x.step cfg ead E e
      = (x.device.step cfg ead e).map fun d' => ⟨d', x.device.flashAfter cfg e d' x.flash⟩ := by
    cases e with
    | reboot p => exact absurd rfl (hboot p)
    | _ => rfl
  rw [hmap] at h
  obtain ⟨d', hd, rfl⟩ := Option.map_eq_some_iff.mp h
  exact ⟨d', hd, rfl⟩

/-- The flash after an event that neither writes nor boots. -/
lemma flashAfter_of_other {d d' : TagDevice} {e : TagEvent} (hother : ¬ e.WritesOrBoots)
    (flash : Flash) : d.flashAfter cfg e d' flash
      = if d.unassociates cfg e then flashDeleteProvisionedData flash else flash := by
  cases e with
  | eslAddrWrite w =>
      have hid : lowByte (sysGetLe16 w.buf.data 0 &&& 0x7FFF) = eslAddrBroadcast := not_not.mp hother
      have herr : (d.tag.eslAddrWrite cfg w).1 = .error .valueNotAllowed := by
        simp only [EslTag.eslAddrWrite, dif_pos hid]
      simp only [TagDevice.flashAfter, herr]
      rfl
  | apKeyWrite | eslRspKeyWrite | absTimeWrite | reboot => exact absurd trivial hother
  | _ => rfl

lemma provides?_of_other {e : TagEvent} (hother : ¬ e.WritesOrBoots) : e.provides? = none := by
  cases e with
  | eslAddrWrite w => exact if_pos (not_not.mp hother)
  | apKeyWrite | eslRspKeyWrite | absTimeWrite => exact absurd trivial hother
  | _ => rfl

/-- A write stores the value that it leaves in RAM. -/
lemma Mirrors.write {x : FlashedTag × Provision} (hx : Mirrors x) {d' : TagDevice} {flash : Flash}
    {s : Settings} {c : Characteristic} (hflash : storedSettings flash = s)
    (hram : d'.tag.provisioned = .of s)
    (hbits : s.provision = (storedSettings x.1.flash).provision.add c) :
    Mirrors (⟨d', flash⟩, x.2.add c) where
  ram := by rw [hram, hflash]
  written := by rw [hflash, hbits, hx.written]

/-- An event that neither writes nor boots. -/
lemma mirrors_of_other {x : FlashedTag × Provision} {x' : FlashedTag} {e : TagEvent}
    (hx : Mirrors x) (hother : ¬ e.WritesOrBoots) (hstep : x.1.step cfg ead E e = some x') :
    Mirrors (x', writtenAfter cfg x.1 e x' x.2) := by
  have hboot : ∀ p, e ≠ .reboot p := by
    rintro p rfl
    exact hother trivial
  obtain ⟨d', hd, rfl⟩ := step_eq_some hboot hstep
  have hprovisioned := TagDevice.provisioned_step hd hother
  have hflash : x.1.device.flashAfter cfg e d' x.1.flash
      = if x.1.device.unassociates cfg e then flashDeleteProvisionedData x.1.flash
        else x.1.flash := flashAfter_of_other hother x.1.flash
  have hnone := provides?_of_other hother
  by_cases hun : x.1.device.unassociates cfg e
  · rw [if_pos hun] at hprovisioned hflash
    refine ⟨?_, ?_⟩
    · rw [hprovisioned, hflash, storedSettings_delete]
      rfl
    · simp only [hflash, storedSettings_delete, writtenAfter, hnone, if_pos hun]
      rfl
  · rw [if_neg hun] at hprovisioned hflash
    refine ⟨?_, ?_⟩
    · rw [hprovisioned, hflash, hx.ram]
    · simp only [hflash, writtenAfter, hnone, if_neg hun]
      exact hx.written

/-- **One step.** -/
theorem mirrors_step (hforget : cfg.forgetProvisionData = false) {x y : FlashedTag × Provision}
    {e : TagEvent} (hx : Mirrors x) (h : stepWritten cfg ead E x e = some y) : Mirrors y := by
  obtain ⟨hstep, hwritten⟩ := withHistory_eq_some.mp h
  obtain ⟨x', w'⟩ := y
  dsimp only at hstep hwritten
  subst hwritten
  by_cases hother : e.WritesOrBoots
  · cases e with
    | reboot p =>
        obtain rfl := Option.some.inj hstep
        exact ⟨provisioned_boot p _, hx.written⟩
    | eslAddrWrite w =>
        obtain ⟨d', hd, rfl⟩ := step_eq_some (by rintro _ ⟨⟩) hstep
        cases hd
        have hprovides : (TagEvent.eslAddrWrite w).provides? = some .addr := if_neg hother
        have hwrite := provisioned_eslAddrWrite x.1.device.tag hforget hother
        have haddr : (x.1.device.tag.eslAddrWrite cfg w).2.assoc.eslAddr = ⟨_, hother⟩ :=
          congrArg ProvisionedData.eslAddr hwrite
        have hok : (x.1.device.tag.eslAddrWrite cfg w).1 = .ok 2 :=
          ok_eslAddrWrite x.1.device.tag hother
        simp only [TagDevice.flashAfter, writtenAfter, hprovides, hok, hforget]
        refine hx.write (storedSettings_addrSave _) ?_ rfl
        refine hwrite.trans ?_
        rw [hx.ram]
        exact congrArg
          (fun a => ProvisionedData.of { storedSettings x.1.flash with eslAddr := some a }) haddr.symm
    | apKeyWrite w =>
        obtain ⟨d', hd, rfl⟩ := step_eq_some (by rintro _ ⟨⟩) hstep
        cases hd
        have hwrite := provisioned_apKeyWrite (w := w) x.1.device.tag hforget
        have hkey : (x.1.device.tag.apKeyWrite cfg w).2.assoc.eslApKey = storedKey w :=
          congrArg ProvisionedData.eslApKey hwrite
        simp only [TagDevice.flashAfter, writtenAfter, TagEvent.provides?, hforget]
        refine hx.write (storedSettings_apKeySave _) ?_ rfl
        refine hwrite.trans ?_
        rw [hx.ram]
        exact congrArg
          (fun k => ProvisionedData.of { storedSettings x.1.flash with eslApKey := some k }) hkey.symm
    | eslRspKeyWrite w =>
        obtain ⟨d', hd, rfl⟩ := step_eq_some (by rintro _ ⟨⟩) hstep
        cases hd
        have hwrite := provisioned_eslRspKeyWrite (w := w) x.1.device.tag hforget
        have hkey : (x.1.device.tag.eslRspKeyWrite cfg w).2.assoc.eslRspKey = storedKey w :=
          congrArg ProvisionedData.eslRspKey hwrite
        simp only [TagDevice.flashAfter, writtenAfter, TagEvent.provides?, hforget]
        refine hx.write (storedSettings_rspKeySave _) ?_ rfl
        refine hwrite.trans ?_
        rw [hx.ram]
        exact congrArg
          (fun k => ProvisionedData.of { storedSettings x.1.flash with eslRspKey := some k }) hkey.symm
    | absTimeWrite w =>
        obtain ⟨d', hd, rfl⟩ := step_eq_some (by rintro _ ⟨⟩) hstep
        cases hd
        have hwrite := provisioned_absTimeWrite (w := w) x.1.device.tag hforget
        simp only [TagDevice.flashAfter, writtenAfter, TagEvent.provides?, hforget]
        refine hx.write storedSettings_absSave ?_ rfl
        refine hwrite.trans ?_
        rw [hx.ram]
        rfl
    | _ => cases hother
  · exact mirrors_of_other hx hother hstep

/-- What a reboot finds. -/
lemma Mirrors.restores {x : FlashedTag × Provision} (hx : Mirrors x) (p : BootParam) :
    Restores x.2 x.1.device.tag (FlashedTag.boot cfg E p x.1.flash).device.tag := by
  have hboot : (FlashedTag.boot cfg E p x.1.flash).device.tag.provisioned
      = .of (storedSettings x.1.flash) := provisioned_boot p x.1.flash
  have hsame := hboot.trans hx.ram.symm
  have hbits : x.1.device.tag.assoc.configuringState.provision
      = (storedSettings x.1.flash).provision := congrArg ProvisionedData.bits hx.ram
  have hunset : ∀ {α : Type} (o : Option α) {b : Bool}, o.isSome = b → b = false → o = none := by
    intro α o b ho hb
    rw [hb] at ho
    exact Option.isSome_eq_false_iff.mp ho |> Option.isNone_iff_eq_none.mp
  have hwritten := hx.written
  refine ⟨congrArg ProvisionedData.eslAddr hsame, congrArg ProvisionedData.eslApKey hsame,
    congrArg ProvisionedData.eslRspKey hsame, congrArg ProvisionedData.bits hsame,
    ⟨fun h => ?_, fun h => ?_, fun h => ?_⟩, ?_⟩
  · have hnone := hunset (storedSettings x.1.flash).eslAddr (congrArg Provision.addr hwritten) h
    have haddr := congrArg ProvisionedData.eslAddr hboot
    simp only [ProvisionedData.of, hnone] at haddr
    exact congrArg EslAddr.val haddr
  · have hnone := hunset (storedSettings x.1.flash).eslApKey
      (congrArg Provision.apSyncKey hwritten) h
    have hkey := congrArg ProvisionedData.eslApKey hboot
    simp only [ProvisionedData.of, hnone] at hkey
    exact hkey
  · have hnone := hunset (storedSettings x.1.flash).eslRspKey
      (congrArg Provision.responseKey hwritten) h
    have hkey := congrArg ProvisionedData.eslRspKey hboot
    simp only [ProvisionedData.of, hnone] at hkey
    exact hkey
  · rw [hbits]
    exact eslState_boot p _

/-- **Persistence.**  From the first boot on, whatever the flash holds by then and whatever happens to
the tag, a reboot finds the provisioned data as it is. -/
theorem restores_run (cfg : Config) (ead : Ead) (E : Enumeration SettingsName (List UInt8))
    (hforget : cfg.forgetProvisionData = false) (p : BootParam) (flash : Flash)
    (es : List TagEvent) :
    AlongRun (stepWritten cfg ead E)
      (fun x => ∀ p', Restores x.2 x.1.device.tag
        (FlashedTag.boot cfg E p' x.1.flash).device.tag)
      (FlashedTag.boot cfg E p flash, (storedSettings flash).provision) es := by
  have hstep : PreservedUnder (stepWritten cfg ead E) (fun _ _ => True) Mirrors :=
    fun _ _ _ hx _ h => mirrors_step hforget hx h
  have hboot : Mirrors (FlashedTag.boot cfg E p flash, (storedSettings flash).provision) :=
    ⟨provisioned_boot p flash, rfl⟩
  exact (alongRun_of_stepsMeet hstep hboot (.of_forall fun _ _ => trivial)).imp
    fun _ hx p' => hx.restores p'

end Runs

/-! ### A reboot of a configured tag -/

/-- The tag of the sample run comes back with its address and waits for the AP. -/
theorem restores_configured :
    ((run (FlashedTag.step .sample .clear (.stored _ _)) (FlashedTag.boot .sample (.stored _ _) {} ∅)
        (configuredAndUpdating ++ [.reboot {}])).map fun x =>
      (x.device.tag.assoc.eslAddr.val, x.device.tag.assoc.eslState)) = some (1, .unsynchronized)
    ∧ AlongRun (stepWritten .sample .clear (.stored _ _))
        (fun x => ∀ p', Restores x.2 x.1.device.tag
          (FlashedTag.boot .sample (.stored _ _) p' x.1.flash).device.tag)
        (FlashedTag.boot .sample (.stored _ _) {} ∅, (storedSettings ∅).provision)
        (configuredAndUpdating ++ [.reboot {}]) :=
  ⟨by decide +kernel, restores_run .sample .clear (.stored _ _) rfl {} ∅ _⟩

end NrfEsl
