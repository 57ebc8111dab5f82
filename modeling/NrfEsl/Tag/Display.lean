import NrfEsl.Tag.View

/-!
# The display of a tag as a machine of its own

Of everything a tag does, six operations reach a display (`DisplayOp`): the accepted commands, the
display worker, and a boot.  `displayOp?` names the operation of an event, with every check that the
command makes, and `displayWorks_step` is the connection: **a display does what its operations do**.

The absolute time of the tag moves with the uptime and is set by one characteristic write only
(`absTimeAnchor_step`).  A time that is not reached yet is shown at one uptime first, the one that a
timed command is scheduled for (`absTimeAt_due`, `absTimeAt_ne_of_lt_due`).
-/

namespace NrfEsl

/-! ## Operations -/

/-- `CONFIG_BT_ESL_IMAGE_MAX`, which stands for no image; a PTS build claims to show image 0. -/
def Config.resetImgIdx (cfg : Config) : UInt8 := if cfg.pts then 0 else UInt8.ofNat cfg.imageMax

/-- What can happen to a display. -/
inductive DisplayOp
  | refresh
  | display (imgIdx : UInt8)
  /-- A timed command is accepted. -/
  | arm (absTime : UInt32) (imgIdx : UInt8)
  /-- The timed command is deleted. -/
  | delete
  /-- The display worker runs. -/
  | run
  | boot
  deriving DecidableEq, Repr

/-- The operation, at an uptime and an absolute time. -/
def DisplayOp.apply (cfg : Config) (uptime : ℕ) (absTime : UInt32) (w : DisplayDwork) :
    DisplayOp → DisplayDwork
  | .refresh => { w with work := some uptime }
  | .display imgIdx => { w with imgIdx := imgIdx, work := some uptime }
  | .arm start imgIdx => ⟨some (uptime + (start - absTime).toNat), imgIdx, start, false⟩
  | .delete => ⟨none, cfg.resetImgIdx, 0, false⟩
  | .run => { w with work := none, active := true, startAbsTime := 0 }
  | .boot => ⟨none, cfg.resetImgIdx, 0, false⟩

/-- The operation of a command that reaches the switch, if display `i` accepts it. -/
def EslTag.displayCommand? (cfg : Config) (i : ℕ) (cmd : Mem) (t : EslTag) : Option DisplayOp :=
  let w := t.elems.displayWorks i
  if (cmd 2).toNat ≠ i ∨ cfg.displayMax ≤ i then none
  else
    match EslOpCode.ofByte? (cmd 0) with
    | some .refreshDisplay => if w.imgIdx.toNat = cfg.imageMax then none else some .refresh
    | some .displayImage =>
        if t.displayImageError cfg (cmd 2) (cmd 3) = none then some (.display (cmd 3)) else none
    | some .displayTimedImage =>
        let newAbsTime := sysGetLe32 cmd 4
        if t.displayImageError cfg (cmd 2) (cmd 3) ≠ none then none
        else if newAbsTime = 0 then some .delete
        else if eslTimedAbsMax ≤ (newAbsTime - t.absTime).toNat then none
        else if w.startAbsTime = 0 ∨ w.startAbsTime = newAbsTime then
          some (.arm newAbsTime (cmd 3))
        else none
    | _ => none

/-- The operation of an event on display `i`. -/
def TagDevice.displayOp? (cfg : Config) (i : ℕ) (d : TagDevice) : TagEvent → Option DisplayOp
  | .ecpWork _ =>
      if d.tag.ReachesSwitch cfg d.ecpNetBuf then d.tag.displayCommand? cfg i d.ecpNetBuf.data
      else none
  | .displayWork idx => if idx = i then some .run else none
  | .reboot _ => some .boot
  | _ => none

/-! ## The clock -/

namespace EslTag

variable (t : EslTag)

/-- `esl_get_abs_time` at another uptime. -/
def absTimeAt (t : EslTag) (uptime : ℕ) : UInt32 := UInt32.ofNat uptime - t.assoc.absTimeAnchor

lemma absTimeAt_add (u k : ℕ) : t.absTimeAt (u + k) = t.absTimeAt u + UInt32.ofNat k := by
  simp only [absTimeAt, UInt32.ofNat_add]
  grind

/-- The clock shows a time after the delay of a timed command. -/
lemma absTimeAt_due (absTime : UInt32) :
    t.absTimeAt (t.uptime + (absTime - t.absTime).toNat) = absTime := by
  rw [absTimeAt_add, UInt32.ofNat_toNat]
  show t.absTime + (absTime - t.absTime) = absTime
  grind

/-- It does not show it before. -/
lemma absTimeAt_ne_of_lt_due {absTime : UInt32} {u : ℕ} (h : t.uptime ≤ u)
    (hlt : u < t.uptime + (absTime - t.absTime).toNat) : t.absTimeAt u ≠ absTime := by
  obtain ⟨k, rfl⟩ := Nat.exists_eq_add_of_le h
  rintro rfl
  have hk : t.absTimeAt (t.uptime + k) - t.absTime = UInt32.ofNat k := by
    rw [absTimeAt_add]
    show t.absTime + UInt32.ofNat k - t.absTime = _
    grind
  have hmod := Nat.mod_le k (2 ^ 32)
  rw [hk, UInt32.toNat_ofNat'] at hlt
  omega

end EslTag

/-- The absolute time that a characteristic write sets. -/
def TagEvent.newAbsTime? : TagEvent → Option UInt32
  | .absTimeWrite w => some (sysGetLe32 w.buf.data 0)
  | _ => none

/-! ## What the other handlers leave alone -/

/-- The displays and the clock. -/
structure Displays where
  absTimeAnchor : UInt32
  works : ℕ → DisplayDwork

/-- All elements and the clock. -/
structure Hardware where
  absTimeAnchor : UInt32
  elems : Elements

namespace EslTag

/-- The displays and the clock of a tag. -/
def displays (t : EslTag) : Displays := ⟨t.assoc.absTimeAnchor, t.elems.displayWorks⟩

/-- The elements and the clock of a tag. -/
def hardware (t : EslTag) : Hardware := ⟨t.assoc.absTimeAnchor, t.elems⟩

lemma displays_of_hardware {t t' : EslTag} (h : t'.hardware = t.hardware) :
    t'.displays = t.displays :=
  congrArg (fun x : Hardware => (⟨x.absTimeAnchor, x.elems.displayWorks⟩ : Displays)) h

/-! ### Handlers that reach no element -/

section Hardware

variable {cfg : Config} (t : EslTag)

/-- Only the entry of `SM_SYNCHRONIZED` resets an LED. -/
lemma hardware_btEslStateTransition {state : EslState} (h : state ≠ .synchronized) :
    (t.btEslStateTransition cfg state).hardware = t.hardware := by
  cases state with
  | synchronized => exact absurd rfl h
  | unsynchronized =>
      simp only [btEslStateTransition, smUnsynchronizedEntry]
      split <;> rfl
  | _ => rfl

lemma hardware_eslIsConfiguringState :
    (t.eslIsConfiguringState cfg).2.hardware = t.hardware := by
  simp only [eslIsConfiguringState]
  split
  · exact hardware_btEslStateTransition t (by decide)
  · rfl

lemma hardware_termCbTail : (t.termCbTail cfg).hardware = t.hardware :=
  hardware_btEslStateTransition _ (by decide)

lemma hardware_eslStopSyncPawr : (t.eslStopSyncPawr cfg).hardware = t.hardware := by
  simp only [eslStopSyncPawr]
  split
  · split
    · exact hardware_termCbTail _
    · rfl
  · rfl

lemma hardware_termCb : (t.termCb cfg).hardware = t.hardware := by
  rw [termCb, hardware_termCbTail, hardware_eslStopSyncPawr]
  rfl

lemma hardware_disconnected (reason : UInt8) :
    (t.disconnected cfg reason).hardware = t.hardware := by
  have hstate : ∀ t : EslTag, (t.disconnectedState cfg reason).hardware = t.hardware := by
    intro t
    simp only [disconnectedState, eslIsConfiguringState]
    split_ifs
    · rfl
    · rw [hardware_btEslStateTransition _ (by decide)]
      exact hardware_btEslStateTransition _ (by decide)
    · dsimp only
      split
      · exact hardware_btEslStateTransition _ (by decide)
      · rfl
    · rfl
  simp only [disconnected]
  split
  · exact hstate _
  · exact hstate _

lemma hardware_securityChanged (err : Bool) :
    (t.securityChanged cfg err).hardware = t.hardware := by
  simp only [securityChanged]
  split_ifs
  · rfl
  · exact hardware_btEslStateTransition _ (by decide)
  · rfl

lemma hardware_eslAddrWrite (w : AttWrite) : (t.eslAddrWrite cfg w).2.hardware = t.hardware := by
  simp only [eslAddrWrite]
  split
  · rfl
  · exact hardware_eslIsConfiguringState _

/-- `bt_esl_init` touches no element once the works are reset. -/
lemma hardware_btEslInit (p : BootParam) : (btEslInit cfg p).hardware = (restored cfg p).hardware := by
  by_cases hp : (restored cfg p).assoc.configuringState.Provisioned
  · rw [btEslInit, eslIsConfiguringState, if_pos hp]
    dsimp only
    rw [hardware_btEslStateTransition _ (by decide)]
    split
    · exact hardware_btEslStateTransition _ (by decide)
    · exact hardware_btEslStateTransition _ (by decide)
  · rw [btEslInit, eslIsConfiguringState, if_neg hp]
    dsimp only
    split <;> rfl

end Hardware

/-! ### Handlers that reach no display -/

section Frame

variable {cfg : Config} (t : EslTag)

@[simp] lemma displays_emit (o : TagOutput) : (t.emit o).displays = t.displays := rfl

@[simp] lemma displays_ledDworkReset (idx : ℕ) : (t.ledDworkReset idx).displays = t.displays := rfl

@[simp] lemma displays_ledDworkResetAll : (t.ledDworkResetAll cfg).displays = t.displays :=
  foldl_frame (fun t idx => t.ledDworkReset idx) displays (fun _ _ => rfl) _ t

@[simp] lemma displays_btEslAdvStop : (t.btEslAdvStop cfg).displays = t.displays := by
  unfold btEslAdvStop
  split <;> rfl

@[simp] lemma displays_btEslStateTransition (state : EslState) :
    (t.btEslStateTransition cfg state).displays = t.displays := by
  by_cases h : state = .synchronized
  · subst h
    simp only [btEslStateTransition, smSynchronizedEntry]
    split
    · exact displays_btEslAdvStop _
    · exact displays_btEslAdvStop _
  · exact displays_of_hardware (hardware_btEslStateTransition t h)

lemma displays_syncCb : (t.syncCb cfg).displays = t.displays := by
  simp only [syncCb]
  split
  · split
    · rw [displays_emit, displays_btEslStateTransition]
      rfl
    · rw [displays_btEslStateTransition]
      rfl
  · rfl

@[simp] lemma displays_btEslUnassociate : (t.btEslUnassociate cfg).displays = t.displays := by
  have hclear : ∀ t : EslTag,
      t.eslInitProvisionedData.eslSettingsDeleteProvisionedData.displays = t.displays :=
    fun _ => rfl
  have hdisconnect : ∀ t : EslTag, t.btEslDisconnect.displays = t.displays := fun _ => rfl
  have hstop : (t.eslStopSyncPawr cfg).displays = t.displays :=
    displays_of_hardware (hardware_eslStopSyncPawr t)
  simp only [btEslUnassociate, displays_btEslStateTransition]
  split <;> split <;>
    simp only [displays_emit, displays_ledDworkResetAll, hclear, hdisconnect, hstop]

@[simp] lemma displays_btEslFactoryReset : (t.btEslFactoryReset cfg).displays = t.displays := by
  rw [btEslFactoryReset, displays_btEslUnassociate, btEslDeleteImages]
  split <;> rfl

lemma displays_eslStateTimeoutWorkFn : (t.eslStateTimeoutWorkFn cfg).displays = t.displays := by
  unfold eslStateTimeoutWorkFn
  cases t.assoc.stateTimeoutWork.mode with
  | unsynced =>
      refine (displays_of_hardware (hardware_eslStopSyncPawr _)).trans ?_
      exact displays_btEslStateTransition _ _
  | unassociated => exact displays_btEslUnassociate t

lemma displays_connected (err : UInt8) : (t.connected cfg err).displays = t.displays := by
  simp only [connected]
  split_ifs <;> rfl

lemma displays_absTimeWrite (w : AttWrite) : (t.absTimeWrite cfg w).2.displays
    = ⟨UInt32.ofNat t.uptime - sysGetLe32 w.buf.data 0, t.elems.displayWorks⟩ :=
  displays_of_hardware (hardware_eslIsConfiguringState _)

/-! The LED workers. -/

lemma displays_eslAdvertisingFn : (t.eslAdvertisingFn cfg).displays = t.displays := by
  simp only [eslAdvertisingFn]
  split <;> rfl

lemma displays_updateLed (idx : ℕ) (f : LedDwork → LedDwork) :
    (t.updateLed idx f).displays = t.displays := rfl

lemma displays_ledOnOff (idx : ℕ) (onoff : Bool) : (t.ledOnOff idx onoff).displays = t.displays :=
  rfl

lemma displays_ledDelayWorkerFn (idx : ℕ) :
    (t.ledDelayWorkerFn cfg idx).displays = t.displays := by
  have henable : ∀ t : EslTag, (t.ledEnable idx).displays = t.displays := by
    intro t
    simp only [ledEnable]
    split <;> rfl
  have hstop : ∀ t : EslTag, (t.ledStopByTime idx).displays = t.displays := by
    intro t
    simp only [ledStopByTime]
    split <;> rfl
  have hbit : ∀ t : EslTag, (t.ledShowBit idx).displays = t.displays := fun _ => rfl
  simp only [ledDelayWorkerFn]
  split_ifs <;>
    simp only [ledContinuous, hbit, hstop, henable, displays_updateLed, displays_ledOnOff]

end Frame

/-! ## Commands -/

section Command

variable {cfg : Config} (t : EslTag)

lemma displays_prepareResponse : (t.prepareResponse cfg).displays = t.displays := by
  simp only [prepareResponse]
  split <;> rfl

lemma out_prepareResponse : (t.prepareResponse cfg).out = t.out := by
  simp only [prepareResponse]
  split <;> rfl

lemma displayWorks_updateDisplay (idx : ℕ) (f : DisplayDwork → DisplayDwork) (i : ℕ) :
    (t.updateDisplay idx f).elems.displayWorks i
      = if i = idx then f (t.elems.displayWorks idx) else t.elems.displayWorks i := by
  simp only [updateDisplay, Function.update_apply]

/-- No command sets the clock. -/
lemma absTimeAnchor_commandSwitch (cmd : Mem) :
    (t.commandSwitch cfg cmd).assoc.absTimeAnchor = t.assoc.absTimeAnchor := by
  unfold commandSwitch
  cases EslOpCode.ofByte? (cmd 0) with
  | none => rw [assoc_opDefault]
  | some op =>
      cases op with
      | factoryReset =>
          simp only [opFactoryReset]
          split_ifs
          · rfl
          · rfl
          · exact congrArg Displays.absTimeAnchor (displays_btEslFactoryReset t)
      | updateComplete =>
          simp only [opUpdateComplete]
          split
          · exact congrArg Displays.absTimeAnchor (displays_btEslStateTransition _ _)
          · simp only [eslIsConfiguringState]
            split_ifs <;> rfl
      | _ => simp [setRespOp, opServiceReset]

/-- What an operation, if there is one, makes of a display. -/
def displayAfter (cfg : Config) (i : ℕ) (op? : Option DisplayOp) : DisplayDwork :=
  match op? with
  | some op => op.apply cfg t.uptime t.absTime (t.elems.displayWorks i)
  | none => t.elems.displayWorks i

lemma displayWorks_displayDelayWorkerFn {i : ℕ} (hi : i < cfg.displayMax) (idx : ℕ) :
    (t.displayDelayWorkerFn cfg idx).elems.displayWorks i
      = t.displayAfter cfg i (if idx = i then some .run else none) := by
  simp only [displayDelayWorkerFn]
  by_cases hidx : idx = i
  · subst hidx
    rw [if_pos rfl, if_neg (not_le.mpr hi)]
    split
    · rw [elems_emit]
      exact (displayWorks_updateDisplay t idx _ idx).trans (if_pos rfl)
    · exact (displayWorks_updateDisplay t idx _ idx).trans (if_pos rfl)
  · rw [if_neg hidx]
    split
    · rfl
    · split
      · rw [elems_emit]
        exact (displayWorks_updateDisplay t idx _ i).trans (if_neg (Ne.symm hidx))
      · exact (displayWorks_updateDisplay t idx _ i).trans (if_neg (Ne.symm hidx))

section Opcode

variable {i : ℕ} {cmd : Mem}

/-- A command for another display. -/
lemma displayCommand?_of_ne (hidx : (cmd 2).toNat ≠ i) : t.displayCommand? cfg i cmd = none :=
  if_pos (.inl hidx)

lemma not_otherDisplay (hi : (cmd 2).toNat < cfg.displayMax) :
    ¬ ((cmd 2).toNat ≠ (cmd 2).toNat ∨ cfg.displayMax ≤ (cmd 2).toNat) := by
  rintro (h | h)
  · exact h rfl
  · omega

lemma displayWorks_displayDworkReset (idx : ℕ) :
    (t.displayDworkReset cfg idx).elems.displayWorks i
      = if i = idx then ⟨none, cfg.resetImgIdx, 0, false⟩ else t.elems.displayWorks i := by
  rw [displayDworkReset, displayWorks_updateDisplay]
  rfl

lemma displayWorks_opRefreshDisplay (hi : i < cfg.displayMax)
    (hop : EslOpCode.ofByte? (cmd 0) = some .refreshDisplay) :
    (t.opRefreshDisplay cfg cmd).elems.displayWorks i
      = t.displayAfter cfg i (t.displayCommand? cfg i cmd) := by
  by_cases hidx : (cmd 2).toNat = i
  · subst hidx
    have hmax : cfg.displayMax ≠ 0 := by omega
    rw [displayCommand?, if_neg (not_otherDisplay hi), opRefreshDisplay]
    simp only [hop, if_neg hmax, if_neg (not_le.mpr hi)]
    split
    · rfl
    · rw [rescheduleDisplay, displayWorks_updateDisplay, if_pos rfl]
      rfl
  · rw [displayCommand?_of_ne t hidx, displayAfter, opRefreshDisplay]
    split_ifs
    · rfl
    · rfl
    · rfl
    · rw [rescheduleDisplay, displayWorks_updateDisplay, if_neg (Ne.symm hidx)]
      rfl

lemma displayWorks_opDisplayImage (hi : i < cfg.displayMax)
    (hop : EslOpCode.ofByte? (cmd 0) = some .displayImage) :
    (t.opDisplayImage cfg cmd).elems.displayWorks i
      = t.displayAfter cfg i (t.displayCommand? cfg i cmd) := by
  by_cases hidx : (cmd 2).toNat = i
  · subst hidx
    rw [displayCommand?, if_neg (not_otherDisplay hi), opDisplayImage]
    simp only [hop]
    cases t.displayImageError cfg (cmd 2) (cmd 3) with
    | some e => rfl
    | none =>
        simp only [rescheduleDisplay, displayWorks_updateDisplay, if_true]
        rfl
  · rw [displayCommand?_of_ne t hidx, displayAfter, opDisplayImage]
    cases t.displayImageError cfg (cmd 2) (cmd 3) with
    | some e => rfl
    | none =>
        simp only [rescheduleDisplay, displayWorks_updateDisplay, if_neg (Ne.symm hidx)]
        rfl

lemma displayWorks_opDisplayTimedImage (hi : i < cfg.displayMax)
    (hop : EslOpCode.ofByte? (cmd 0) = some .displayTimedImage) :
    (t.opDisplayTimedImage cfg cmd).elems.displayWorks i
      = t.displayAfter cfg i (t.displayCommand? cfg i cmd) := by
  by_cases hidx : (cmd 2).toNat = i
  · subst hidx
    rw [displayCommand?, if_neg (not_otherDisplay hi), opDisplayTimedImage]
    simp only [hop]
    cases t.displayImageError cfg (cmd 2) (cmd 3) with
    | some e => rfl
    | none =>
        simp only [ne_eq, not_true, if_false]
        split_ifs
        · exact (displayWorks_displayDworkReset _ _).trans (if_pos rfl)
        · rfl
        · simp only [rescheduleDisplay, displayWorks_updateDisplay, displayWorks_displayDworkReset,
            if_true]
          rfl
        · rfl
  · rw [displayCommand?_of_ne t hidx, displayAfter, opDisplayTimedImage]
    cases t.displayImageError cfg (cmd 2) (cmd 3) with
    | some e => rfl
    | none =>
        dsimp only
        split_ifs
        · exact (displayWorks_displayDworkReset _ _).trans (if_neg (Ne.symm hidx))
        · rfl
        · simp only [rescheduleDisplay, displayWorks_updateDisplay, displayWorks_displayDworkReset,
            if_neg (Ne.symm hidx)]
          rfl
        · rfl

end Opcode

/-- **A command does to a display what its operation does.** -/
theorem displayWorks_commandSwitch {i : ℕ} (hi : i < cfg.displayMax) (cmd : Mem) :
    (t.commandSwitch cfg cmd).elems.displayWorks i
      = t.displayAfter cfg i (t.displayCommand? cfg i cmd) := by
  have hother : t.displayCommand? cfg i cmd = none →
      (t.commandSwitch cfg cmd).elems.displayWorks = t.elems.displayWorks →
      (t.commandSwitch cfg cmd).elems.displayWorks i
        = t.displayAfter cfg i (t.displayCommand? cfg i cmd) := by
    intro hnone hsame
    rw [hnone, hsame]
    rfl
  cases hop : EslOpCode.ofByte? (cmd 0) with
  | none =>
      refine hother (by simp [displayCommand?, hop]) ?_
      simp only [commandSwitch, hop, opDefault]
      split_ifs <;> rfl
  | some op =>
      cases op with
      | refreshDisplay =>
          rw [← displayWorks_opRefreshDisplay t hi hop]
          simp only [commandSwitch, hop]
      | displayImage =>
          rw [← displayWorks_opDisplayImage t hi hop]
          simp only [commandSwitch, hop]
      | displayTimedImage =>
          rw [← displayWorks_opDisplayTimedImage t hi hop]
          simp only [commandSwitch, hop]
      | factoryReset =>
          refine hother (by simp [displayCommand?, hop]) ?_
          simp only [commandSwitch, hop, opFactoryReset]
          split_ifs
          · rfl
          · rfl
          · exact congrArg Displays.works (displays_btEslFactoryReset t)
      | updateComplete =>
          refine hother (by simp [displayCommand?, hop]) ?_
          simp only [commandSwitch, hop, opUpdateComplete]
          split
          · exact congrArg Displays.works (displays_btEslStateTransition _ _)
          · simp only [eslIsConfiguringState]
            split_ifs <;> rfl
      | unassociate =>
          refine hother (by simp [displayCommand?, hop]) ?_
          simp only [commandSwitch, hop, opUnassociate]
          split <;> rfl
      | readSensorData =>
          refine hother (by simp [displayCommand?, hop]) ?_
          simp only [commandSwitch, hop, opReadSensorData]
          split_ifs <;> rfl
      | ledControl =>
          refine hother (by simp [displayCommand?, hop]) ?_
          simp only [commandSwitch, hop, opLedControl]
          split_ifs <;> rfl
      | ledTimedControl =>
          refine hother (by simp [displayCommand?, hop]) ?_
          simp only [commandSwitch, hop, opLedTimedControl]
          split_ifs <;> rfl
      | ping | serviceReset =>
          refine hother (by simp [displayCommand?, hop]) ?_
          simp only [commandSwitch, hop]
          rfl

end Command

end EslTag

/-! ## Events -/

namespace TagDevice

section Step

variable {cfg : Config} {ead : Ead} {d d' : TagDevice} {e : TagEvent}

open EslTag

/-- The handler does to the displays what the command does. -/
lemma displays_ecpCommandHandler (env : HandlerEnv) :
    (d.ecpCommandHandler cfg env).tag.displays
      = (d.tag.executeCommand cfg d.ecpNetBuf).1.displays :=
  ecpCommandHandler_frame d (·.displays) displays_prepareResponse env

lemma out_ecpCommandHandler (env : HandlerEnv) :
    (d.ecpCommandHandler cfg env).tag.out = (d.tag.executeCommand cfg d.ecpNetBuf).1.out :=
  ecpCommandHandler_frame d (·.out) out_prepareResponse env

lemma hardware_parserStep {rnd : Randomness} (h : d.parserStep cfg ead rnd = some d') :
    d'.tag.hardware = d.tag.hardware := by
  cases parserTurn h with
  | move => rfl
  | dispatch => rfl
  | finish =>
      simp only [endPacket, setPawrResponse]
      split <;> rfl

lemma hardware_pawrSyncWorkFn (stack : Mem) :
    (d.pawrSyncWorkFn cfg ead stack).tag.hardware = d.tag.hardware := by
  simp only [pawrSyncWorkFn]
  split
  · split
    · rw [tag_beginPacket]
    · simp only [renewTimeout, tag_beginPacket]
      rfl
  · rfl

lemma displays_recvCb (counter subevent buf) :
    (d.recvCb cfg counter subevent buf).tag.displays = d.tag.displays := by
  simp only [recvCb]
  split
  · rfl
  · split <;> split <;> rfl

/-- **Four kinds of events touch the displays or the clock.** -/
lemma displays_step (h : d.step cfg ead e = some d')
    (hcommand : ∀ env, e = .ecpWork env → ¬ d.tag.ReachesSwitch cfg d.ecpNetBuf)
    (hwork : ∀ idx, e ≠ .displayWork idx) (htime : ∀ w, e ≠ .absTimeWrite w)
    (hboot : ∀ p, e ≠ .reboot p) : d'.tag.displays = d.tag.displays := by
  cases e with
  | tick | imageWritten | busy =>
      cases h
      rfl
  | connected err =>
      cases h
      exact displays_connected d.tag err
  | disconnected reason =>
      cases h
      exact displays_of_hardware (hardware_disconnected d.tag reason)
  | securityChanged err =>
      cases h
      exact displays_of_hardware (hardware_securityChanged d.tag err)
  | eslAddrWrite w =>
      cases h
      exact displays_of_hardware (hardware_eslAddrWrite d.tag w)
  | apKeyWrite | eslRspKeyWrite =>
      cases h
      exact displays_of_hardware (hardware_eslIsConfiguringState _)
  | absTimeWrite w => exact absurd rfl (htime w)
  | eslControlWrite w =>
      cases h
      rw [tag_eslControlWrite]
  | ecpWork env =>
      obtain ⟨-, rfl⟩ := step_ecpWork_eq_some.mp h
      have hun := untouched_executeCommand (hcommand env rfl)
      rw [displays_ecpCommandHandler, displays, hun.assoc, hun.elems]
      rfl
  | notifySent =>
      obtain ⟨n, rest, -, rfl⟩ := step_notifySent_eq_some.mp h
      cases n.func with
      | unassociatedCb => exact displays_btEslUnassociate d.tag
      | notifyCb => rfl
  | syncCb =>
      cases h
      exact displays_syncCb d.tag
  | termCb =>
      cases h
      exact displays_of_hardware (hardware_termCb d.tag)
  | recvCb counter subevent buf =>
      cases h
      exact displays_recvCb counter subevent buf
  | pawrSyncWork stack =>
      obtain ⟨-, rfl⟩ := step_pawrSyncWork_eq_some.mp h
      exact displays_of_hardware (hardware_pawrSyncWorkFn stack)
  | parserStep rnd => exact displays_of_hardware (hardware_parserStep h)
  | stateTimeout =>
      obtain ⟨-, rfl⟩ := step_stateTimeout_eq_some.mp h
      exact displays_eslStateTimeoutWorkFn _
  | ledWork idx =>
      obtain ⟨-, rfl⟩ := step_ledWork_eq_some.mp h
      exact displays_ledDelayWorkerFn d.tag idx
  | displayWork idx => exact absurd rfl (hwork idx)
  | advWork =>
      obtain ⟨-, rfl⟩ := step_advWork_eq_some.mp h
      exact displays_eslAdvertisingFn d.tag
  | factoryReset =>
      cases h
      exact displays_btEslFactoryReset d.tag
  | unassociate =>
      cases h
      exact displays_btEslUnassociate d.tag
  | reboot p => exact absurd rfl (hboot p)

/-- A command that reaches the switch does to the clock and the displays what the switch does. -/
lemma displays_of_reachesSwitch {env : HandlerEnv} (hsw : d.tag.ReachesSwitch cfg d.ecpNetBuf)
    (h : d.step cfg ead (.ecpWork env) = some d') :
    d'.tag.displays = (d.tag.startCommand.commandSwitch cfg d.ecpNetBuf.data).displays := by
  obtain ⟨-, rfl⟩ := step_ecpWork_eq_some.mp h
  rw [displays_ecpCommandHandler, hsw.executeCommand]

lemma foldl_displayDworkReset (l : List ℕ) (t : EslTag) (i : ℕ) :
    (l.foldl (fun t idx => t.displayDworkReset cfg idx) t).elems.displayWorks i
      = if i ∈ l then ⟨none, cfg.resetImgIdx, 0, false⟩ else t.elems.displayWorks i := by
  induction l generalizing t with
  | nil => rfl
  | cons idx l ih =>
      rw [List.foldl_cons, ih, displayWorks_displayDworkReset]
      by_cases hl : i ∈ l
      · rw [if_pos hl, if_pos (List.mem_cons_of_mem _ hl)]
      · rw [if_neg hl]
        by_cases hi : i = idx
        · rw [if_pos hi, if_pos (by simp [hi])]
        · rw [if_neg hi, if_neg (by simp [hi, hl])]

/-- Every display is reset when the tag boots. -/
lemma displayWorks_boot {i : ℕ} (hi : i < cfg.displayMax) (p : BootParam) :
    (boot cfg p).tag.elems.displayWorks i = ⟨none, cfg.resetImgIdx, 0, false⟩ := by
  have hrestored : (restored cfg p).displays.works i = ⟨none, cfg.resetImgIdx, 0, false⟩ := by
    show (displayDworkResetAll cfg _).elems.displayWorks i = _
    rw [displayDworkResetAll, foldl_displayDworkReset, if_pos (List.mem_range.mpr hi)]
  have hinit : (btEslInit cfg p).displays = (restored cfg p).displays :=
    displays_of_hardware (hardware_btEslInit p)
  exact (congrFun (congrArg Displays.works hinit) i).trans hrestored

/-- **A display does what its operations do.** -/
theorem displayWorks_step {i : ℕ} (hi : i < cfg.displayMax) (h : d.step cfg ead e = some d') :
    d'.tag.elems.displayWorks i = d.tag.displayAfter cfg i (d.displayOp? cfg i e) := by
  have hother : (∀ env, e = .ecpWork env → ¬ d.tag.ReachesSwitch cfg d.ecpNetBuf) →
      (∀ idx, e ≠ .displayWork idx) → (∀ w, e ≠ .absTimeWrite w) → (∀ p, e ≠ .reboot p) →
      d.displayOp? cfg i e = none →
      d'.tag.elems.displayWorks i = d.tag.displayAfter cfg i (d.displayOp? cfg i e) := by
    intro h₁ h₂ h₃ h₄ hnone
    rw [hnone]
    exact congrFun (congrArg Displays.works (displays_step h h₁ h₂ h₃ h₄)) i
  cases e with
  | ecpWork env =>
      by_cases hsw : d.tag.ReachesSwitch cfg d.ecpNetBuf
      · have hworks := congrFun (congrArg Displays.works (displays_of_reachesSwitch hsw h)) i
        rw [displayOp?, if_pos hsw]
        exact hworks.trans (displayWorks_commandSwitch d.tag.startCommand hi d.ecpNetBuf.data)
      · refine hother ?_ (by rintro _ ⟨⟩) (by rintro _ ⟨⟩) (by rintro _ ⟨⟩) (if_neg hsw)
        rintro _ ⟨⟩
        exact hsw
  | absTimeWrite w =>
      cases h
      exact congrFun (congrArg Displays.works (displays_absTimeWrite d.tag w)) i
  | displayWork idx =>
      obtain ⟨-, rfl⟩ := step_displayWork_eq_some.mp h
      exact displayWorks_displayDelayWorkerFn d.tag hi idx
  | reboot p =>
      cases h
      exact displayWorks_boot hi _
  | _ => exact hother (by rintro _ ⟨⟩) (by rintro _ ⟨⟩) (by rintro _ ⟨⟩) (by rintro _ ⟨⟩) rfl

lemma eq_displayWork_of_displayOp? {i : ℕ} (h : d.displayOp? cfg i e = some .run) :
    e = .displayWork i := by
  cases e with
  | displayWork idx =>
      simp only [displayOp?, Option.ite_none_right_eq_some] at h
      rw [h.1]
  | ecpWork env =>
      simp only [displayOp?, displayCommand?, Option.ite_none_right_eq_some,
        Option.ite_none_left_eq_some] at h
      obtain ⟨-, -, h⟩ := h
      split at h
      · simp at h
      · simp at h
      · split_ifs at h <;> cases h
      · cases h
  | _ => simp [displayOp?] at h

/-- What it takes for a Display Timed Image to be accepted. -/
structure ArmsDisplay (cfg : Config) (i : ℕ) (d : TagDevice) (absTime : UInt32) (imgIdx : UInt8) :
    Prop where
  runs : d.Runs cfg .displayTimedImage
  displayIdx : (d.ecpNetBuf.data 2).toNat = i
  imgIdx_eq : d.ecpNetBuf.data 3 = imgIdx
  absTime_eq : sysGetLe32 d.ecpNetBuf.data 4 = absTime
  passes : d.tag.displayImageError cfg (d.ecpNetBuf.data 2) (d.ecpNetBuf.data 3) = none
  ne_zero : absTime ≠ 0
  inRange : (absTime - d.tag.absTime).toNat < eslTimedAbsMax
  free : (d.tag.elems.displayWorks i).startAbsTime = 0
    ∨ (d.tag.elems.displayWorks i).startAbsTime = absTime

lemma armsDisplay_of_displayOp? {i : ℕ} {absTime : UInt32} {imgIdx : UInt8}
    (h : d.displayOp? cfg i e = some (.arm absTime imgIdx)) :
    (∃ env, e = .ecpWork env) ∧ ArmsDisplay cfg i d absTime imgIdx := by
  cases e with
  | ecpWork env =>
      refine ⟨⟨env, rfl⟩, ?_⟩
      simp only [displayOp?, Option.ite_none_right_eq_some] at h
      obtain ⟨hsw, h⟩ := h
      simp only [displayCommand?, Option.ite_none_left_eq_some, not_or, not_not] at h
      obtain ⟨⟨hidx, -⟩, h⟩ := h
      split at h
      · simp at h
      · simp at h
      · rename_i hop
        split_ifs at h with herr h₀ hmax hstart
        · cases h
        · obtain ⟨rfl, rfl⟩ := DisplayOp.arm.inj (Option.some.inj h)
          exact ⟨⟨hsw, EslOpCode.ofByte?_eq_some.mp hop⟩, hidx, rfl, rfl, not_not.mp herr, h₀,
            not_le.mp hmax, hstart⟩
      · cases h
  | _ => simp [displayOp?] at h

/-- An accepted Display Timed Image calls nothing. -/
lemma ArmsDisplay.out {i : ℕ} {absTime : UInt32} {imgIdx : UInt8}
    (ha : ArmsDisplay cfg i d absTime imgIdx) {env : HandlerEnv}
    (h : d.step cfg ead (.ecpWork env) = some d') : d'.tag.out = d.tag.out := by
  obtain ⟨-, rfl⟩ := step_ecpWork_eq_some.mp h
  rw [out_ecpCommandHandler, ha.runs.1.executeCommand, commandSwitch,
    EslOpCode.ofByte?_eq_some.mpr ha.runs.2]
  simp only [opDisplayTimedImage]
  split
  · rfl
  · split_ifs <;> rfl

/-- The display worker shows the image in its record. -/
lemma out_displayWork {i : ℕ} (hi : i < cfg.displayMax)
    (h : d.step cfg ead (.displayWork i) = some d') (hcontrol : cfg.hasDisplayControl = true) :
    d'.tag.out = d.tag.out ++ [.displayControl i (d.tag.elems.displayWorks i).imgIdx] := by
  obtain ⟨-, rfl⟩ := step_displayWork_eq_some.mp h
  simp only [onTag, displayDelayWorkerFn, if_neg (not_le.mpr hi), if_pos hcontrol, emit,
    displayWorks_updateDisplay, if_true]
  rfl

/-- **The clock is set by one characteristic write only.** -/
theorem absTimeAnchor_step (h : d.step cfg ead e = some d') (htime : ∀ w, e ≠ .absTimeWrite w)
    (hboot : ∀ p, e ≠ .reboot p) : d'.tag.assoc.absTimeAnchor = d.tag.assoc.absTimeAnchor := by
  have hother : (∀ env, e = .ecpWork env → ¬ d.tag.ReachesSwitch cfg d.ecpNetBuf) →
      (∀ idx, e ≠ .displayWork idx) → d'.tag.assoc.absTimeAnchor = d.tag.assoc.absTimeAnchor :=
    fun h₁ h₂ => congrArg Displays.absTimeAnchor (displays_step h h₁ h₂ htime hboot)
  cases e with
  | ecpWork env =>
      by_cases hsw : d.tag.ReachesSwitch cfg d.ecpNetBuf
      · have hanchor := congrArg Displays.absTimeAnchor (displays_of_reachesSwitch hsw h)
        exact hanchor.trans (absTimeAnchor_commandSwitch d.tag.startCommand d.ecpNetBuf.data)
      · refine hother ?_ (by rintro _ ⟨⟩)
        rintro _ ⟨⟩
        exact hsw
  | displayWork idx =>
      obtain ⟨-, rfl⟩ := step_displayWork_eq_some.mp h
      exact congrArg Assoc.absTimeAnchor (assoc_displayDelayWorkerFn d.tag idx)
  | _ => exact hother (by rintro _ ⟨⟩) (by rintro _ ⟨⟩)

/-- The clock goes on as before if no other time is written. -/
lemma absTimeAnchor_of_keeps (h : d.step cfg ead e = some d')
    (hkeep : e.newAbsTime?.getD d.tag.absTime = d.tag.absTime) (hboot : ∀ p, e ≠ .reboot p) :
    d'.tag.assoc.absTimeAnchor = d.tag.assoc.absTimeAnchor := by
  cases e with
  | absTimeWrite w =>
      cases h
      have hwrite : (d.tag.absTimeWrite cfg w).2.assoc.absTimeAnchor
          = UInt32.ofNat d.tag.uptime - sysGetLe32 w.buf.data 0 :=
        congrArg Displays.absTimeAnchor (displays_absTimeWrite d.tag w)
      have hsame : sysGetLe32 w.buf.data 0 = d.tag.absTime := hkeep
      refine hwrite.trans ?_
      rw [hsame, absTime]
      grind
  | _ => exact absTimeAnchor_step h (by rintro _ ⟨⟩) hboot

end Step

end TagDevice

end NrfEsl
