import NrfEsl.Tag.Display

/-!
# An LED of a tag as a machine of its own

What happens to an LED: accepted commands, its worker, an unassociation, a boot; and the last LED,
if it is the indication LED (`Config.Indicates`), is reset and made to flash by connections, packets
and advertising.  `ledOp?` names the operation of an event, with every check that the command makes,
and `led_step` is the connection: **an LED does what its operations do**.

An LED is its delayed work and its LED object.  Whether it is lit is not part of the service's state;
that is read off the calls of `led_control` (`EslTag.lit`).
-/

namespace NrfEsl

/-! ## Operations -/

/-- LED `i` is the indication LED. -/
def Config.Indicates (cfg : Config) (i : ℕ) : Prop :=
  cfg.ledIndication = true ∧ i = cfg.indicationLedIdx

instance (cfg : Config) (i : ℕ) : Decidable (cfg.Indicates i) := inferInstanceAs (Decidable (_ ∧ _))

/-- The delayed work of an LED after `led_dwork_reset`. -/
def LedDwork.idle : LedDwork := ⟨none, 0, 0, 0, 0, false, false⟩

/-- The delayed work of an LED whose command waits for uptime `due`, absolute time `absTime`. -/
def LedDwork.armed (due : ℕ) (absTime : UInt32) : LedDwork :=
  ⟨some due, eslLedFlashPatternStartBitIdx, 0, 0, absTime, false, false⟩

/-- The LED objects of a tag that has just started. -/
def LedObj.zero : LedObj := ⟨0, Vector.replicate 5 0, 0, 0, 0, 0⟩

/-- `ESL_LED_FLASH_PATTERN_LEN` is 5. -/
lemma flashPatternLen_pos : 0 < 5 := by decide

/-- An LED. -/
structure Led where
  dwork : LedDwork
  obj : LedObj
  deriving DecidableEq, Repr

/-- What can happen to an LED. -/
inductive LedOp
  /-- An LED Control is accepted. -/
  | control (obj : LedObj)
  /-- An LED Timed Control is accepted. -/
  | arm (absTime : UInt32) (obj : LedObj)
  /-- The timed command is deleted. -/
  | delete
  /-- The LED worker runs. -/
  | run
  | unassociate
  /-- The indication LED is taken, or given back. -/
  | reset
  /-- The indication LED flashes; a packet first cancels what ran before. -/
  | flash (restart : Bool) (patternByte bitOffPeriod bitOnPeriod repeatType : UInt8)
      (repeatDuration : UInt16)
  | boot
  deriving DecidableEq, Repr

namespace EslTag

/-- The LED at an index. -/
def led (t : EslTag) (i : ℕ) : Led := ⟨t.elems.ledDworks i, t.elems.ledObjs i⟩

/-- The last call of `led_control` for the LED turned it on. -/
def lit (i : ℕ) (t : EslTag) : Bool :=
  t.out.foldl (fun b o =>
    match o with
    | .ledControl idx _ onoff => if idx = i then onoff else b
    | _ => b) false

/-- The operation, on LED `i` of a tag. -/
def ledApply (cfg : Config) (i : ℕ) (t : EslTag) : LedOp → Led
  | .control obj => ⟨{ LedDwork.idle with work := some t.uptime }, obj⟩
  | .arm start obj => ⟨.armed (t.uptime + (start - t.absTime).toNat) start, obj⟩
  | .delete | .unassociate | .reset => ⟨.idle, (t.led i).obj⟩
  | .run => (t.ledDelayWorkerFn cfg i).led i
  | .flash restart patternByte bitOffPeriod bitOnPeriod repeatType repeatDuration =>
      let w := if restart then .idle else (t.led i).dwork
      ⟨{ w with
          patternIdx := eslLedFlashPatternStartBitIdx
          work := w.work.schedule t.uptime 0 },
        { colorBrightness := 0
          flashPattern := (t.led i).obj.flashPattern.set 0 patternByte flashPatternLen_pos
          bitOffPeriod := bitOffPeriod
          bitOnPeriod := bitOnPeriod
          repeatType := repeatType
          repeatDuration := repeatDuration }⟩
  | .boot => ⟨.idle, .zero⟩

/-- What an operation, if there is one, makes of LED `i`. -/
def ledAfter (cfg : Config) (i : ℕ) (t : EslTag) (op? : Option LedOp) : Led :=
  match op? with
  | some op => t.ledApply cfg i op
  | none => t.led i

/-- The operation of LED Timed Control, if LED `i` accepts it. -/
def ledTimedOp? (i : ℕ) (cmd : Mem) (t : EslTag) : Option LedOp :=
  let newAbsTime := sysGetLe32 cmd 13
  let start := (t.elems.ledDworks i).startAbsTime
  if newAbsTime = 0 then some .delete
  else if eslTimedAbsMax ≤ (newAbsTime - t.absTime).toNat then none
  else if start = 0 ∨ start = newAbsTime then some (.arm newAbsTime (ledObjOfCommand cmd))
  else none

/-- The operation of a command that reaches the switch, if LED `i` accepts it. -/
def ledCommand? (cfg : Config) (i : ℕ) (cmd : Mem) (t : EslTag) : Option LedOp :=
  match EslOpCode.ofByte? (cmd 0) with
  | some .ledControl => if (cmd 2).toNat = i then some (.control (ledObjOfCommand cmd)) else none
  | some .ledTimedControl => if (cmd 2).toNat = i then t.ledTimedOp? i cmd else none
  | some .factoryReset =>
      if t.assoc.eslState ≠ .synchronized ∧ cmd 1 ≠ eslAddrBroadcast then some .unassociate else none
  | some .updateComplete =>
      if (t.assoc.eslState = .updating ∧ t.basicState.synchronized = true) ∧ cfg.Indicates i then
        some .reset
      else none
  | _ => none

end EslTag

/-- The operation of an event on LED `i`. -/
def TagDevice.ledOp? (cfg : Config) (i : ℕ) (d : TagDevice) : TagEvent → Option LedOp
  | .ecpWork _ =>
      if d.tag.ReachesSwitch cfg d.ecpNetBuf then d.tag.ledCommand? cfg i d.ecpNetBuf.data else none
  | .ledWork idx => if idx = i then some .run else none
  | .unassociate | .factoryReset => some .unassociate
  | .notifySent => if d.UnassociatedCbNext then some .unassociate else none
  | .stateTimeout =>
      if d.tag.assoc.stateTimeoutWork.mode = .unassociated then some .unassociate else none
  | .connected err =>
      if (err = 0 ∨ err = EslTag.btHciErrAdvTimeout) ∧ cfg.Indicates i then some .reset else none
  | .syncCb =>
      if d.tag.assoc.eslState ≠ .synchronized ∧ cfg.Indicates i then some .reset else none
  | .recvCb _ _ _ =>
      if d.tag.assoc.eslState = .synchronized ∧ cfg.Indicates i then
        some (.flash true 0x1 50 50 0 1)
      else none
  | .advWork => if cfg.Indicates i then some (.flash false 0x5a 0xff 100 1 7200) else none
  | .reboot _ => some .boot
  | _ => none

/-! ## What the handlers do -/

namespace EslTag

section Handlers

variable {cfg : Config} (t : EslTag) (i : ℕ)

lemma led_of_elems {t t' : EslTag} (h : t'.elems = t.elems) (i : ℕ) : t'.led i = t.led i := by
  rw [led, led, h]

lemma led_of_hardware {t t' : EslTag} (h : t'.hardware = t.hardware) (i : ℕ) :
    t'.led i = t.led i :=
  led_of_elems (congrArg Hardware.elems h) i

@[simp] lemma led_emit (o : TagOutput) : (t.emit o).led i = t.led i := rfl

lemma led_updateLed (idx : ℕ) (f : LedDwork → LedDwork) :
    (t.updateLed idx f).led i
      = if i = idx then ⟨f (t.led i).dwork, (t.led i).obj⟩ else t.led i := by
  simp only [led, ledDworks_updateLed]
  split
  · rename_i h
    rw [h]
    rfl
  · rfl

lemma led_ledDworkReset (idx : ℕ) :
    (t.ledDworkReset idx).led i = if i = idx then ⟨.idle, (t.led i).obj⟩ else t.led i := by
  rw [ledDworkReset, led_emit, led_updateLed]
  rfl

lemma foldl_ledDworkReset (l : List ℕ) :
    (l.foldl (fun t idx => t.ledDworkReset idx) t).led i
      = if i ∈ l then ⟨.idle, (t.led i).obj⟩ else t.led i := by
  induction l generalizing t with
  | nil => rfl
  | cons idx l ih =>
      rw [List.foldl_cons, ih, led_ledDworkReset]
      by_cases hi : i = idx
      · rw [if_pos hi, if_pos (List.mem_cons.mpr (.inl hi))]
        split <;> rfl
      · rw [if_neg hi]
        simp only [List.mem_cons, hi, false_or]

variable {i}

lemma led_ledDworkResetAll (hi : i < cfg.ledMax) :
    (t.ledDworkResetAll cfg).led i = ⟨.idle, (t.led i).obj⟩ := by
  rw [ledDworkResetAll, foldl_ledDworkReset, if_pos (List.mem_range.mpr hi)]

lemma led_btEslAdvStop :
    (t.btEslAdvStop cfg).led i = if cfg.Indicates i then ⟨.idle, (t.led i).obj⟩ else t.led i := by
  by_cases h : cfg.Indicates i
  · rw [if_pos h, btEslAdvStop, if_pos h.1, led_ledDworkReset, if_pos h.2]
    rfl
  · rw [if_neg h, btEslAdvStop]
    split
    · rename_i hl
      rw [led_ledDworkReset, if_neg fun hi => h ⟨hl, hi⟩]
      rfl
    · rfl

lemma led_smSynchronizedEntry :
    (t.btEslStateTransition cfg .synchronized).led i
      = if cfg.Indicates i then ⟨.idle, (t.led i).obj⟩ else t.led i := by
  simp only [btEslStateTransition, smSynchronizedEntry]
  split
  · exact led_btEslAdvStop _
  · exact led_btEslAdvStop _

lemma led_syncCb :
    (t.syncCb cfg).led i = if t.assoc.eslState ≠ .synchronized ∧ cfg.Indicates i then
      ⟨.idle, (t.led i).obj⟩ else t.led i := by
  have hentry : ∀ t' : EslTag, t'.led i = t.led i →
      (t'.btEslStateTransition cfg .synchronized).led i
        = if cfg.Indicates i then ⟨.idle, (t.led i).obj⟩ else t.led i := by
    intro t' h
    rw [led_smSynchronizedEntry, h]
  simp only [syncCb]
  by_cases hs : t.assoc.eslState ≠ .synchronized
  · rw [if_pos hs]
    simp only [and_iff_right hs]
    split
    · exact hentry _ rfl
    · exact hentry _ rfl
  · rw [if_neg hs, if_neg fun h => hs h.1]
    rfl

lemma led_btEslUnassociate (hi : i < cfg.ledMax) :
    (t.btEslUnassociate cfg).led i = ⟨.idle, (t.led i).obj⟩ := by
  have hreset : ∀ t' : EslTag, t'.elems = t.elems →
      ((t'.btEslDisconnect.emit .unpair).eslInitProvisionedData.eslSettingsDeleteProvisionedData
        |>.ledDworkResetAll cfg).led i = ⟨.idle, (t.led i).obj⟩ := by
    intro t' h
    rw [led_ledDworkResetAll _ hi]
    exact congrArg (fun e : Elements => (⟨.idle, e.ledObjs i⟩ : Led)) h
  simp only [btEslUnassociate]
  rw [led_of_hardware (hardware_btEslStateTransition _ (by decide))]
  have hstop : (if t.basicState.synchronized = true then t.eslStopSyncPawr cfg else t).elems
      = t.elems := by
    split
    · exact congrArg Hardware.elems (hardware_eslStopSyncPawr t)
    · rfl
  split
  · exact hreset _ hstop
  · exact hreset _ hstop

lemma led_btEslFactoryReset (hi : i < cfg.ledMax) :
    (t.btEslFactoryReset cfg).led i = ⟨.idle, (t.led i).obj⟩ := by
  rw [btEslFactoryReset, led_btEslUnassociate _ hi, btEslDeleteImages]
  split <;> rfl

lemma led_connected (err : UInt8) :
    (t.connected cfg err).led i = if (err = 0 ∨ err = btHciErrAdvTimeout) ∧ cfg.Indicates i then
      ⟨.idle, (t.led i).obj⟩ else t.led i := by
  have hindicate : ∀ t' : EslTag, t'.elems = t.elems →
      (if cfg.ledIndication = true then
        (t'.ledDworkReset cfg.indicationLedIdx).emit (.ledControl cfg.indicationLedIdx 0 true)
      else t').led i = if cfg.Indicates i then ⟨.idle, (t.led i).obj⟩ else t.led i := by
    intro t' h
    by_cases hi : cfg.Indicates i
    · rw [if_pos hi, if_pos hi.1, led_emit, led_ledDworkReset, if_pos hi.2, led_of_elems h]
    · rw [if_neg hi]
      split
      · rename_i hl
        rw [led_emit, led_ledDworkReset, if_neg fun hidx => hi ⟨hl, hidx⟩, led_of_elems h]
      · exact led_of_elems h i
  simp only [connected]
  by_cases herr : err ≠ 0 ∧ err ≠ btHciErrAdvTimeout
  · rw [if_pos herr, if_neg]
    rintro ⟨h | h, -⟩
    · exact herr.1 h
    · exact herr.2 h
  · have herr' : err = 0 ∨ err = btHciErrAdvTimeout := by tauto
    rw [if_neg herr]
    simp only [and_iff_right herr']
    refine hindicate _ ?_
    split <;> rfl

/-! The workers. -/

lemma led_ledOnOff (idx : ℕ) (onoff : Bool) : (t.ledOnOff idx onoff).led i = t.led i := rfl

lemma led_indicateLed (patternByte bitOffPeriod bitOnPeriod repeatType : UInt8)
    (repeatDuration : UInt16) :
    (t.indicateLed cfg patternByte bitOffPeriod bitOnPeriod repeatType repeatDuration).led i
      = if i = cfg.indicationLedIdx then
          t.ledApply cfg i
            (.flash false patternByte bitOffPeriod bitOnPeriod repeatType repeatDuration)
        else t.led i := by
  by_cases hidx : i = cfg.indicationLedIdx
  · subst hidx
    simp only [indicateLed, scheduleLed, led_updateLed, if_true]
    simp only [led, Function.update_self]
    rfl
  · simp only [indicateLed, scheduleLed, led_updateLed, if_neg hidx]
    simp only [led, Function.update_of_ne hidx]

lemma led_eslAdvertisingFn :
    (t.eslAdvertisingFn cfg).led i = if cfg.Indicates i then
      t.ledApply cfg i (.flash false 0x5a 0xff 100 1 7200) else t.led i := by
  simp only [eslAdvertisingFn, led_emit]
  by_cases h : cfg.Indicates i
  · rw [if_pos h, if_pos h.1, led_indicateLed, if_pos h.2]
    rfl
  · rw [if_neg h]
    split
    · rename_i hl
      rw [led_indicateLed, if_neg fun hi => h ⟨hl, hi⟩]
      rfl
    · rfl

lemma led_ledDelayWorkerFn_of_ne {idx : ℕ} (h : i ≠ idx) :
    (t.ledDelayWorkerFn cfg idx).led i = t.led i := by
  have hupdate : ∀ (t : EslTag) (f : LedDwork → LedDwork), (t.updateLed idx f).led i = t.led i :=
    fun t f => (led_updateLed t i idx f).trans (if_neg h)
  have henable : ∀ t : EslTag, (t.ledEnable idx).led i = t.led i := by
    intro t
    simp only [ledEnable]
    split
    · rfl
    · exact hupdate _ _
  have hstop : ∀ t : EslTag, (t.ledStopByTime idx).led i = t.led i := by
    intro t
    simp only [ledStopByTime]
    split
    · exact hupdate _ _
    · rfl
  have hbit : ∀ t : EslTag, (t.ledShowBit idx).led i = t.led i := by
    intro t
    simp only [ledShowBit, scheduleLed, hupdate, led_ledOnOff]
  simp only [ledDelayWorkerFn]
  split_ifs <;>
    simp only [ledContinuous, hbit, hupdate, hstop, henable, led_ledOnOff]

lemma led_displayDelayWorkerFn (idx : ℕ) : (t.displayDelayWorkerFn cfg idx).led i = t.led i := by
  simp only [displayDelayWorkerFn]
  split_ifs <;> rfl

end Handlers

/-! ## Commands -/

section Command

variable {cfg : Config} (t : EslTag) {i : ℕ} {cmd : Mem}

lemma led_storeLedObj (ledIdx : UInt8) :
    (t.storeLedObj ledIdx cmd).led i
      = if i = ledIdx.toNat then ⟨(t.led i).dwork, ledObjOfCommand cmd⟩ else t.led i := by
  simp only [led, storeLedObj, Function.update_apply]
  split <;> rfl

lemma led_setLedState (ledIdx : UInt8) : (t.setLedState ledIdx).led i = t.led i := rfl

lemma led_btEslBasicStateUpdate : (t.btEslBasicStateUpdate cfg).led i = t.led i := rfl

lemma led_prepareResponse : (t.prepareResponse cfg).led i = t.led i := by
  simp only [prepareResponse]
  split <;> rfl

lemma led_opLedControl (hi : i < cfg.ledMax)
    (hop : EslOpCode.ofByte? (cmd 0) = some .ledControl) :
    (t.opLedControl cfg cmd).led i = t.ledAfter cfg i (t.ledCommand? cfg i cmd) := by
  simp only [ledCommand?, hop]
  by_cases hidx : (cmd 2).toNat = i
  · subst hidx
    have hmax : cfg.ledMax ≠ 0 := by omega
    rw [if_pos rfl, opLedControl]
    simp only [if_neg hmax, if_neg (not_le.mpr hi), scheduleLed, led_updateLed, led_ledDworkReset,
      led_setLedState, led_storeLedObj, if_true]
    rfl
  · rw [if_neg hidx, opLedControl]
    split_ifs
    · rfl
    · rfl
    · simp only [scheduleLed, led_updateLed, led_ledDworkReset, led_setLedState, led_storeLedObj,
        if_neg (Ne.symm hidx)]
      rfl

lemma led_opLedTimedControl (hi : i < cfg.ledMax)
    (hop : EslOpCode.ofByte? (cmd 0) = some .ledTimedControl) :
    (t.opLedTimedControl cfg cmd).led i = t.ledAfter cfg i (t.ledCommand? cfg i cmd) := by
  simp only [ledCommand?, hop]
  by_cases hidx : (cmd 2).toNat = i
  · subst hidx
    have hmax : cfg.ledMax ≠ 0 := by omega
    rw [if_pos rfl, opLedTimedControl]
    simp only [if_neg hmax, if_neg (not_le.mpr hi), ledTimedOp?]
    split_ifs
    · exact (led_ledDworkReset t _ _).trans (if_pos rfl)
    · rfl
    · simp only [scheduleLed, led_updateLed, led_storeLedObj, led_btEslBasicStateUpdate,
        led_setLedState, led_ledDworkReset, if_true]
      rfl
    · rfl
  · rw [if_neg hidx, opLedTimedControl]
    split_ifs
    · rfl
    · rfl
    · exact (led_ledDworkReset t _ _).trans (if_neg (Ne.symm hidx))
    · rfl
    · simp only [scheduleLed, led_updateLed, led_storeLedObj, led_btEslBasicStateUpdate,
        led_setLedState, led_ledDworkReset, if_neg (Ne.symm hidx)]
      rfl
    · rfl

lemma led_opUpdateComplete :
    (t.opUpdateComplete cfg).led i
      = if (t.assoc.eslState = .updating ∧ t.basicState.synchronized = true) ∧ cfg.Indicates i then
          ⟨.idle, (t.led i).obj⟩
        else t.led i := by
  simp only [opUpdateComplete]
  by_cases hs : t.assoc.eslState = .updating ∧ t.basicState.synchronized = true
  · rw [if_pos hs, led_smSynchronizedEntry]
    simp only [and_iff_right hs]
    rfl
  · rw [if_neg hs, if_neg fun h => hs h.1]
    refine led_of_hardware ?_ i
    simp only [eslIsConfiguringState]
    split_ifs
    · dsimp only
      rw [hardware_btEslStateTransition _ (by decide)]
      exact hardware_btEslStateTransition _ (by decide)
    · rfl

/-- **A command does to an LED what its operation does.** -/
theorem led_commandSwitch (hi : i < cfg.ledMax) (cmd : Mem) :
    (t.commandSwitch cfg cmd).led i = t.ledAfter cfg i (t.ledCommand? cfg i cmd) := by
  have hother : t.ledCommand? cfg i cmd = none → (t.commandSwitch cfg cmd).led i = t.led i →
      (t.commandSwitch cfg cmd).led i = t.ledAfter cfg i (t.ledCommand? cfg i cmd) := by
    intro hnone hsame
    rw [hnone, hsame]
    rfl
  cases hop : EslOpCode.ofByte? (cmd 0) with
  | none =>
      refine hother (by simp only [ledCommand?, hop]) ?_
      simp only [commandSwitch, hop, opDefault]
      split_ifs <;> rfl
  | some op =>
      cases op with
      | ledControl =>
          rw [← led_opLedControl t hi hop]
          simp only [commandSwitch, hop]
      | ledTimedControl =>
          rw [← led_opLedTimedControl t hi hop]
          simp only [commandSwitch, hop]
      | factoryReset =>
          simp only [commandSwitch, ledCommand?, hop, opFactoryReset]
          by_cases hs : t.assoc.eslState = .synchronized
          · rw [if_pos hs, if_neg fun h => h.1 hs]
            rfl
          · by_cases hid : cmd 1 = eslAddrBroadcast
            · rw [if_neg hs, if_pos hid, if_neg fun h => h.2 hid]
              rfl
            · rw [if_neg hs, if_neg hid, if_pos ⟨hs, hid⟩]
              exact led_btEslFactoryReset t hi
      | updateComplete =>
          simp only [commandSwitch, ledCommand?, hop, led_opUpdateComplete]
          split <;> rfl
      | unassociate =>
          refine hother (by simp only [ledCommand?, hop]) ?_
          simp only [commandSwitch, hop, opUnassociate]
          split <;> rfl
      | readSensorData =>
          refine hother (by simp only [ledCommand?, hop]) ?_
          simp only [commandSwitch, hop, opReadSensorData]
          split_ifs <;> rfl
      | refreshDisplay =>
          refine hother (by simp only [ledCommand?, hop]) ?_
          simp only [commandSwitch, hop, opRefreshDisplay]
          split_ifs <;> rfl
      | displayImage =>
          refine hother (by simp only [ledCommand?, hop]) ?_
          simp only [commandSwitch, hop, opDisplayImage]
          split <;> rfl
      | displayTimedImage =>
          refine hother (by simp only [ledCommand?, hop]) ?_
          simp only [commandSwitch, hop, opDisplayTimedImage]
          split
          · rfl
          · split_ifs <;> rfl
      | ping | serviceReset =>
          refine hother (by simp only [ledCommand?, hop]) ?_
          simp only [commandSwitch, hop]
          rfl

/-- No command runs the worker. -/
lemma ledCommand?_ne_run : t.ledCommand? cfg i cmd ≠ some .run := by
  simp only [ledCommand?, ledTimedOp?]
  split
  · split_ifs <;> rintro ⟨⟩
  · split_ifs <;> rintro ⟨⟩
  · split_ifs <;> rintro ⟨⟩
  · split_ifs <;> rintro ⟨⟩
  · rintro ⟨⟩

/-- What every command starts with changes nothing for the operation. -/
lemma ledAfter_startCommand (cmd : Mem) :
    t.startCommand.ledAfter cfg i (t.ledCommand? cfg i cmd)
      = t.ledAfter cfg i (t.ledCommand? cfg i cmd) := by
  cases hop : t.ledCommand? cfg i cmd with
  | none => rfl
  | some op =>
      cases op with
      | run => exact absurd hop (ledCommand?_ne_run t)
      | _ => rfl

end Command

/-! ## The first run of a command -/

section FirstRun

variable {cfg : Config} (t : EslTag) {i : ℕ}

/-- An LED in the middle of its first run: at the start of its pattern, and told to go on or off. -/
structure FirstRun (i : ℕ) (obj : LedObj) (t : EslTag) : Prop where
  obj_eq : t.elems.ledObjs i = obj
  start : (t.elems.ledDworks i).patternIdx = eslLedFlashPatternStartBitIdx
  shown : (t.elems.ledDworks i).workEnable = true
    ∨ t.out.getLast? = some (.ledControl i obj.colorBrightness false)

lemma firstRun_ledStopByTime {obj : LedObj} (hobj : t.elems.ledObjs i = obj)
    (hstart : (t.elems.ledDworks i).patternIdx = eslLedFlashPatternStartBitIdx) :
    FirstRun i obj ((t.ledEnable i).ledStopByTime i) := by
  have henable : (t.ledEnable i).elems.ledObjs i = obj
      ∧ ((t.ledEnable i).elems.ledDworks i).patternIdx = eslLedFlashPatternStartBitIdx
      ∧ ((t.ledEnable i).elems.ledDworks i).workEnable = true := by
    simp only [ledEnable]
    split
    · rename_i hw
      exact ⟨hobj, hstart, hw⟩
    · simp only [ledDworks_updateLed, if_true]
      exact ⟨hobj, hstart, trivial⟩
  obtain ⟨hobj, hstart, hw⟩ := henable
  simp only [ledStopByTime]
  split
  · refine ⟨hobj, ?_, .inr ?_⟩
    · rw [ledDworks_updateLed, if_pos rfl]
      exact hstart
    · simp only [updateLed, ledOnOff, emit, hobj, List.getLast?_concat]
  · exact ⟨hobj, hstart, .inl hw⟩

lemma FirstRun.getLast?_out {obj : LedObj} (h : FirstRun i obj t) (idx : UInt8) :
    let t' := t.updateLed i fun w => { w with patternIdx := idx }
    ∃ onoff, (if (t'.elems.ledDworks i).workEnable then t'.ledShowBit i else t').out.getLast?
      = some (.ledControl i obj.colorBrightness onoff) := by
  have hw : ((t.updateLed i fun w => { w with patternIdx := idx }).elems.ledDworks i).workEnable
      = (t.elems.ledDworks i).workEnable := by
    rw [ledDworks_updateLed, if_pos rfl]
  rw [← h.obj_eq]
  simp only [hw]
  split
  · exact ⟨_, List.getLast?_concat⟩
  · rename_i hoff
    refine ⟨false, ?_⟩
    rw [h.obj_eq]
    exact h.shown.resolve_left hoff

/-- **The first run of a command** ends with a call of `led_control` with its colour. -/
lemma getLast?_out_ledDelayWorkerFn (hi : i < cfg.ledMax)
    (hstart : (t.elems.ledDworks i).patternIdx = eslLedFlashPatternStartBitIdx) :
    ∃ onoff, (t.ledDelayWorkerFn cfg i).out.getLast?
      = some (.ledControl i (t.elems.ledObjs i).colorBrightness onoff) := by
  have htaken : ((t.updateLed i fun w => { w with work := none, startAbsTime := 0 }).elems.ledDworks
      i).patternIdx = eslLedFlashPatternStartBitIdx := by
    rw [ledDworks_updateLed, if_pos rfl]
    exact hstart
  have hne : eslLedFlashPatternStartBitIdx ≠ 0 := by decide
  simp only [ledDelayWorkerFn, if_neg (not_le.mpr hi)]
  split
  · exact ⟨_, List.getLast?_concat⟩
  · have hfirst := firstRun_ledStopByTime
      (t.updateLed i fun w => { w with work := none, startAbsTime := 0 }) rfl htaken
    rw [hfirst.start, if_neg hne, if_pos rfl]
    exact hfirst.getLast?_out _ _

end FirstRun

end EslTag

/-! ## Events -/

namespace TagDevice

section Step

variable {cfg : Config} {ead : Ead} {d d' : TagDevice} {e : TagEvent} {i : ℕ}

open EslTag

/-- Every LED is reset when the tag boots. -/
lemma led_boot (hi : i < cfg.ledMax) (p : BootParam) : (boot cfg p).tag.led i = ⟨.idle, .zero⟩ := by
  have hrestored : (restored cfg p).led i = ⟨.idle, .zero⟩ := by
    have hdisplays : ∀ t : EslTag, (t.displayDworkResetAll cfg).led i = t.led i := fun t =>
      foldl_frame (fun t idx => t.displayDworkReset cfg idx) (·.led i) (fun _ _ => rfl) _ t
    refine (hdisplays _).trans ?_
    rw [led_ledDworkResetAll _ hi]
    rfl
  exact (led_of_hardware (hardware_btEslInit p) i).trans hrestored

lemma led_ecpCommandHandler (env : HandlerEnv) :
    (d.ecpCommandHandler cfg env).tag.led i
      = (d.tag.executeCommand cfg d.ecpNetBuf).1.led i :=
  ecpCommandHandler_frame d (·.led i) (fun t => led_prepareResponse t) env

lemma led_recvCb (counter subevent buf) :
    (d.recvCb cfg counter subevent buf).tag.led i
      = if d.tag.assoc.eslState = .synchronized ∧ cfg.Indicates i then
          d.tag.ledApply cfg i (.flash true 0x1 50 50 0 1)
        else d.tag.led i := by
  have hflash : (if cfg.ledIndication = true then
      (d.tag.ledDworkReset cfg.indicationLedIdx).indicateLed cfg 0x1 50 50 0 1 else d.tag).led i
        = if cfg.Indicates i then d.tag.ledApply cfg i (.flash true 0x1 50 50 0 1)
          else d.tag.led i := by
    by_cases h : cfg.Indicates i
    · rw [if_pos h, if_pos h.1, led_indicateLed, if_pos h.2]
      simp only [ledApply, led_ledDworkReset, if_pos h.2]
      rfl
    · rw [if_neg h]
      split
      · rename_i hl
        have hidx : i ≠ cfg.indicationLedIdx := fun hi => h ⟨hl, hi⟩
        rw [led_indicateLed, if_neg hidx, led_ledDworkReset, if_neg hidx]
      · rfl
  simp only [recvCb]
  by_cases hs : d.tag.assoc.eslState = .synchronized
  · rw [if_neg (not_not.mpr hs)]
    simp only [and_iff_right hs]
    rw [← hflash]
    split
    · rfl
    · rfl
  · rw [if_pos hs, if_neg fun h => hs h.1]

/-- **An LED does what its operations do.** -/
theorem led_step (hi : i < cfg.ledMax) (h : d.step cfg ead e = some d') :
    d'.tag.led i = d.tag.ledAfter cfg i (d.ledOp? cfg i e) := by
  -- a condition under which there is an operation
  have hwhen : ∀ {c : Prop} [Decidable c] {op : LedOp},
      d'.tag.led i = (if c then d.tag.ledApply cfg i op else d.tag.led i) →
      d'.tag.led i = d.tag.ledAfter cfg i (if c then some op else none) := by
    intro c _ op hled
    rw [hled]
    split <;> rfl
  cases e with
  | tick | imageWritten | busy =>
      cases h
      rfl
  | connected err =>
      cases h
      exact hwhen (led_connected d.tag err)
  | disconnected reason =>
      cases h
      exact led_of_hardware (hardware_disconnected d.tag reason) i
  | securityChanged err =>
      cases h
      exact led_of_hardware (hardware_securityChanged d.tag err) i
  | eslAddrWrite w =>
      cases h
      exact led_of_hardware (hardware_eslAddrWrite d.tag w) i
  | apKeyWrite | eslRspKeyWrite | absTimeWrite =>
      cases h
      exact led_of_hardware (hardware_eslIsConfiguringState _) i
  | eslControlWrite w =>
      cases h
      rw [tag_eslControlWrite]
      rfl
  | ecpWork env =>
      obtain ⟨-, rfl⟩ := step_ecpWork_eq_some.mp h
      rw [led_ecpCommandHandler, ledOp?]
      by_cases hsw : d.tag.ReachesSwitch cfg d.ecpNetBuf
      · rw [if_pos hsw, hsw.executeCommand]
        exact (led_commandSwitch d.tag.startCommand hi d.ecpNetBuf.data).trans
          (ledAfter_startCommand d.tag d.ecpNetBuf.data)
      · rw [if_neg hsw]
        exact led_of_elems (untouched_executeCommand hsw).elems i
  | notifySent =>
      obtain ⟨n, rest, hn, rfl⟩ := step_notifySent_eq_some.mp h
      rw [ledOp?]
      cases hf : n.func with
      | unassociatedCb =>
          have hnext : d.UnassociatedCbNext := by simp [UnassociatedCbNext, hn, hf]
          rw [if_pos hnext]
          exact led_btEslUnassociate d.tag hi
      | notifyCb =>
          have hnext : ¬ d.UnassociatedCbNext := by simp [UnassociatedCbNext, hn, hf]
          rw [if_neg hnext]
          rfl
  | syncCb =>
      cases h
      exact hwhen (led_syncCb d.tag)
  | termCb =>
      cases h
      exact led_of_hardware (hardware_termCb d.tag) i
  | recvCb counter subevent buf =>
      cases h
      exact hwhen (led_recvCb counter subevent buf)
  | pawrSyncWork stack =>
      obtain ⟨-, rfl⟩ := step_pawrSyncWork_eq_some.mp h
      exact led_of_hardware (hardware_pawrSyncWorkFn stack) i
  | parserStep rnd => exact led_of_hardware (hardware_parserStep h) i
  | stateTimeout =>
      obtain ⟨-, rfl⟩ := step_stateTimeout_eq_some.mp h
      simp only [ledOp?, onTag, eslStateTimeoutWorkFn]
      cases d.tag.assoc.stateTimeoutWork.mode with
      | unsynced =>
          refine (led_of_hardware (hardware_eslStopSyncPawr _) i).trans ?_
          exact led_of_hardware (hardware_btEslStateTransition _ (by decide)) i
      | unassociated => exact led_btEslUnassociate _ hi
  | ledWork idx =>
      obtain ⟨-, rfl⟩ := step_ledWork_eq_some.mp h
      by_cases hidx : idx = i
      · subst hidx
        rw [ledOp?, if_pos rfl]
        rfl
      · rw [ledOp?, if_neg hidx]
        exact led_ledDelayWorkerFn_of_ne d.tag (Ne.symm hidx)
  | displayWork idx =>
      obtain ⟨-, rfl⟩ := step_displayWork_eq_some.mp h
      exact led_displayDelayWorkerFn d.tag idx
  | advWork =>
      obtain ⟨-, rfl⟩ := step_advWork_eq_some.mp h
      exact hwhen (led_eslAdvertisingFn d.tag)
  | factoryReset =>
      cases h
      exact led_btEslFactoryReset d.tag hi
  | unassociate =>
      cases h
      exact led_btEslUnassociate d.tag hi
  | reboot p =>
      cases h
      exact led_boot hi _

lemma eq_ledWork_of_ledOp? (h : d.ledOp? cfg i e = some .run) : e = .ledWork i := by
  cases e with
  | ledWork idx =>
      simp only [ledOp?, Option.ite_none_right_eq_some] at h
      rw [h.1]
  | ecpWork env =>
      simp only [ledOp?, Option.ite_none_right_eq_some] at h
      exact absurd h.2 (ledCommand?_ne_run d.tag)
  | _ => simp [ledOp?] at h

/-- What it takes for an LED Timed Control to be accepted. -/
structure ArmsLed (cfg : Config) (i : ℕ) (d : TagDevice) (absTime : UInt32) (obj : LedObj) :
    Prop where
  runs : d.Runs cfg .ledTimedControl
  ledIdx : (d.ecpNetBuf.data 2).toNat = i
  absTime_eq : sysGetLe32 d.ecpNetBuf.data 13 = absTime
  obj_eq : ledObjOfCommand d.ecpNetBuf.data = obj
  ne_zero : absTime ≠ 0
  inRange : (absTime - d.tag.absTime).toNat < eslTimedAbsMax
  free : (d.tag.elems.ledDworks i).startAbsTime = 0
    ∨ (d.tag.elems.ledDworks i).startAbsTime = absTime

lemma armsLed_of_ledOp? {absTime : UInt32} {obj : LedObj}
    (h : d.ledOp? cfg i e = some (.arm absTime obj)) :
    (∃ env, e = .ecpWork env) ∧ ArmsLed cfg i d absTime obj := by
  cases e with
  | ecpWork env =>
      refine ⟨⟨env, rfl⟩, ?_⟩
      simp only [ledOp?, Option.ite_none_right_eq_some] at h
      obtain ⟨hsw, h⟩ := h
      simp only [ledCommand?] at h
      split at h
      · simp at h
      · rename_i hop
        simp only [ledTimedOp?, Option.ite_none_right_eq_some] at h
        obtain ⟨hidx, h⟩ := h
        split_ifs at h with h₀ hmax hstart
        · cases h
        · obtain ⟨rfl, rfl⟩ := LedOp.arm.inj (Option.some.inj h)
          exact ⟨⟨hsw, EslOpCode.ofByte?_eq_some.mp hop⟩, hidx, rfl, rfl, h₀, not_le.mp hmax,
            hstart⟩
      · simp at h
      · simp at h
      · cases h
  | _ => simp [ledOp?] at h

/-- An accepted LED Timed Control turns its LED off. -/
lemma ArmsLed.out {absTime : UInt32} {obj : LedObj} (ha : ArmsLed cfg i d absTime obj)
    (hi : i < cfg.ledMax) {env : HandlerEnv} (h : d.step cfg ead (.ecpWork env) = some d') :
    d'.tag.out = d.tag.out ++ [.ledControl i 0 false] := by
  have hmax : cfg.ledMax ≠ 0 := by omega
  have hidx : ¬ cfg.ledMax ≤ (d.ecpNetBuf.data 2).toNat := by
    rw [ha.ledIdx]
    omega
  have hzero : sysGetLe32 d.ecpNetBuf.data 13 ≠ 0 := by
    rw [ha.absTime_eq]
    exact ha.ne_zero
  have hrange : ¬ eslTimedAbsMax
      ≤ (sysGetLe32 d.ecpNetBuf.data 13 - d.tag.startCommand.absTime).toNat := by
    rw [ha.absTime_eq]
    exact not_le.mpr ha.inRange
  have hfree : (d.tag.startCommand.elems.ledDworks (d.ecpNetBuf.data 2).toNat).startAbsTime = 0
      ∨ (d.tag.startCommand.elems.ledDworks (d.ecpNetBuf.data 2).toNat).startAbsTime
        = sysGetLe32 d.ecpNetBuf.data 13 := by
    rw [ha.ledIdx, ha.absTime_eq]
    exact ha.free
  obtain ⟨-, rfl⟩ := step_ecpWork_eq_some.mp h
  rw [out_ecpCommandHandler, ha.runs.1.executeCommand, commandSwitch,
    EslOpCode.ofByte?_eq_some.mpr ha.runs.2]
  simp only [opLedTimedControl, if_neg hmax, if_neg hidx, if_neg hzero, if_neg hrange]
  rw [if_pos hfree, ← ha.ledIdx]
  rfl

end Step

end TagDevice

end NrfEsl
