import NrfEsl.Tag.Provision

/-!
# Execution of a command

`ecp_command_handler` up to the label `ecp_response`, one definition for each opcode, and the
bytes `ecp_response_handler` builds for the answer.  Commands read their parameters from
`ecp_net_buf` (`NetBuf`), so a read past its length would see whatever lies behind it.

**The environment of a run.**  What the handler gets from outside the service is a `HandlerEnv`:
the reply of the sensor, the bytes and the length of the vendor response, the stale bytes of the
response buffer on the stack, and whether the stack accepts the notification.
-/

namespace NrfEsl

/-- Outcome of `cb.sensor_control`: `-EBUSY`, or a length and the sensor buffer after the call. -/
inductive SensorReply
  | busy
  | reading (len : UInt8) (data : Mem)

/-- What a run of the command handler gets from outside the service. -/
structure HandlerEnv where
  sensor : SensorReply := .busy
  /-- What `cb.vs_response_handler` writes to the response buffer, and the length it returns. -/
  vendorBytes : List UInt8 := []
  vendorLen : UInt8 := 0
  /-- The response buffer before anything is written to it. -/
  stack : Mem := fun _ => 0
  /-- `bt_gatt_notify_cb` accepts the notification. -/
  notifyAccepted : Bool := true

namespace EslTag

variable (cfg : Config)

/-! ## Responses -/

/-- Set `resp.resp_op`. -/
def setRespOp (op : EslRespCode) (t : EslTag) : EslTag := { t with ecp.resp.respOp := op }

/-- Answer with an error. -/
def setError (e : EslRspErrCode) (t : EslTag) : EslTag :=
  { t with ecp.resp.respOp := .err, ecp.resp.errorCode := e }

/-- Answer with the state of an LED. -/
def setLedState (ledIdx : UInt8) (t : EslTag) : EslTag :=
  { t with ecp.resp.respOp := .ledState, ecp.resp.elemIdx := ledIdx }

/-- Answer with the state of a display. -/
def setDisplayState (displayIdx imageIdx : UInt8) (t : EslTag) : EslTag :=
  { t with
    ecp.resp.respOp := .displayState
    ecp.resp.elemIdx := displayIdx
    ecp.resp.imgIdx := imageIdx }

/-- `bt_esl_basic_state_update` -/
def btEslBasicStateUpdate (t : EslTag) : EslTag :=
  { t with
    basicState.activeLed := (List.range cfg.ledMax).any fun i => (t.elems.ledDworks i).active
    basicState.pendingLedUpdate :=
      (List.range cfg.ledMax).any fun i => (t.elems.ledDworks i).startAbsTime != 0
    basicState.pendingDisplayUpdate :=
      (List.range cfg.displayMax).any fun i => (t.elems.displayWorks i).startAbsTime != 0 }

/-! ## Association commands -/

/-- `OP_UNASSOCIATE`: the rest is left to the completion callback of the notification. -/
def opUnassociate (eslId : UInt8) (t : EslTag) : EslTag :=
  if eslId ≠ eslAddrBroadcast then
    let t := { t with basicState.synchronized := false, ecp.resp.respOp := .basicState }
    { t with ecp.notifyFunc := some .unassociatedCb }
  else t.setError .retry

/-- `OP_SERVICE_RESET` -/
def opServiceReset (t : EslTag) : EslTag :=
  { t with basicState.serviceNeeded := false, ecp.resp.respOp := .basicState }

/-- `OP_FACTORY_RESET` -/
def opFactoryReset (eslId : UInt8) (t : EslTag) : EslTag :=
  if t.assoc.eslState = .synchronized then t.setError .invState
  else if eslId = eslAddrBroadcast then t.setError .retry
  else { t.btEslFactoryReset cfg with ecp.respNeeded := false }

/-- `OP_UPDATE_COMPLETE` -/
def opUpdateComplete (t : EslTag) : EslTag :=
  let t := { t with assoc.configuringState.updateCompleteSet := true }
  if t.assoc.eslState = .updating ∧ t.basicState.synchronized = true then
    { t with assoc.smTimeoutUpdateNeeded := true }.btEslStateTransition cfg .synchronized
  else
    match t.eslIsConfiguringState cfg with
    | (true, t) => t.btEslStateTransition cfg .configured
    | (false, t) => t

/-! ## Sensor and display commands -/

/-- `OP_READ_SENSOR_DATA` -/
def opReadSensorData (cmd : Mem) (t : EslTag) : EslTag :=
  let sensorIdx := cmd 2
  if cfg.sensorMax = 0 then t.setError .invOpcode
  else if cfg.sensorMax ≤ sensorIdx.toNat then t.setError .invParams
  else { t with ecp.resp.respOp := .sensorValueStateMask, ecp.resp.elemIdx := sensorIdx }

/-- `k_work_reschedule_for_queue` of a display work. -/
def rescheduleDisplay (displayIdx : UInt8) (delay : ℕ) (t : EslTag) : EslTag :=
  t.updateDisplay displayIdx.toNat fun w => { w with work := w.work.reschedule t.uptime delay }

/-- `OP_REFRESH_DISPLAY` -/
def opRefreshDisplay (cmd : Mem) (t : EslTag) : EslTag :=
  let displayIdx := cmd 2
  let imgIdx := (t.elems.displayWorks displayIdx.toNat).imgIdx
  if cfg.displayMax = 0 then t.setError .invOpcode
  else if cfg.displayMax ≤ displayIdx.toNat then t.setError .invParams
  else if imgIdx.toNat = cfg.imageMax then t.setError .invImgIdx
  else (t.setDisplayState displayIdx imgIdx).rescheduleDisplay displayIdx 0

/-- The checks Display Image and Display Timed Image share; `none` lets the command pass. -/
def displayImageError (displayIdx imageIdx : UInt8) (t : EslTag) : Option EslRspErrCode :=
  if cfg.displayMax = 0 then some .invOpcode
  else if cfg.displayMax ≤ displayIdx.toNat then some .invParams
  else if cfg.maxImageIndex < imageIdx then some .invParams
  else if t.elems.storedImageSize imageIdx.toNat = 0 ∧ cfg.simulateDisplay = false then
    some .imgNotAvail
  else none

/-- `OP_DISPLAY_IMAGE` -/
def opDisplayImage (cmd : Mem) (t : EslTag) : EslTag :=
  let displayIdx := cmd 2
  let imageIdx := cmd 3
  match t.displayImageError cfg displayIdx imageIdx with
  | some e => t.setError e
  | none =>
      ((t.setDisplayState displayIdx imageIdx).updateDisplay displayIdx.toNat fun w =>
        { w with imgIdx := imageIdx }).rescheduleDisplay displayIdx 0

/-- `OP_DISPLAY_TIMED_IMAGE` -/
def opDisplayTimedImage (cmd : Mem) (t : EslTag) : EslTag :=
  let displayIdx := cmd 2
  let imageIdx := cmd 3
  let newAbsTime := sysGetLe32 cmd 4
  let offsetTime := newAbsTime - t.absTime
  let start := (t.elems.displayWorks displayIdx.toNat).startAbsTime
  match t.displayImageError cfg displayIdx imageIdx with
  | some e => t.setError e
  | none =>
      if newAbsTime = 0 then
        -- delete the queued command
        ((t.setDisplayState displayIdx imageIdx).displayDworkReset cfg displayIdx.toNat)
          |>.btEslBasicStateUpdate cfg
      else if eslTimedAbsMax ≤ offsetTime.toNat then t.setError .implausibleAbs
      else if start = 0 ∨ start = newAbsTime then
        let t := (t.setDisplayState displayIdx imageIdx).displayDworkReset cfg displayIdx.toNat
        let t := t.updateDisplay displayIdx.toNat fun w =>
          { w with imgIdx := imageIdx, startAbsTime := newAbsTime }
        let t := t.rescheduleDisplay displayIdx offsetTime.toNat
        { t with basicState.pendingDisplayUpdate := true }
      else t.setError .queueFull

/-! ## LED commands -/

/-- `unpack_repeat_type_duration` -/
def unpackRepeatTypeDuration (d0 d1 : UInt8) : UInt8 × UInt16 :=
  (d0 &&& 0x1, ((d0 &&& 0xfe) >>> 1).toUInt16 ||| (d1.toUInt16 <<< 8))

/-- The LED object of an LED command. -/
def ledObjOfCommand (cmd : Mem) : LedObj where
  colorBrightness := cmd 3
  flashPattern := Vector.ofFn fun i => cmd (4 + i)
  bitOffPeriod := cmd 9
  bitOnPeriod := cmd 10
  repeatType := (unpackRepeatTypeDuration (cmd 11) (cmd 12)).1
  repeatDuration := (unpackRepeatTypeDuration (cmd 11) (cmd 12)).2

/-- `esl_led_check_and_set_color`; `ESL_LED_MONO` is 1. -/
def eslLedCheckAndSetColor (ledType colorBrightness : UInt8) : UInt8 :=
  if (ledType &&& 0xC0) >>> 6 = 1 then ledType else colorBrightness &&& 0x3f

/-- Store the parameters of an LED command. -/
def storeLedObj (ledIdx : UInt8) (cmd : Mem) (t : EslTag) : EslTag :=
  { t with
    elems.ledObjs := Function.update t.elems.ledObjs ledIdx.toNat (ledObjOfCommand cmd)
    elems.ledType := Function.update t.elems.ledType ledIdx.toNat
      (eslLedCheckAndSetColor (t.elems.ledType ledIdx.toNat) (cmd 3)) }

/-- `k_work_schedule_for_queue` of an LED work. -/
def scheduleLed (ledIdx : ℕ) (delay : ℕ) (t : EslTag) : EslTag :=
  t.updateLed ledIdx fun w => { w with work := w.work.schedule t.uptime delay }

/-- `OP_LED_CONTROL` -/
def opLedControl (cmd : Mem) (t : EslTag) : EslTag :=
  let ledIdx := cmd 2
  if cfg.ledMax = 0 then t.setError .invOpcode
  else if cfg.ledMax ≤ ledIdx.toNat then t.setError .invParams
  else
    let t := (t.storeLedObj ledIdx cmd).setLedState ledIdx
    let t := t.updateLed ledIdx.toNat fun w =>
      { w with patternIdx := eslLedFlashPatternStartBitIdx }
    (t.ledDworkReset ledIdx.toNat).scheduleLed ledIdx.toNat 0

/-- `OP_LED_TIMED_CONTROL` -/
def opLedTimedControl (cmd : Mem) (t : EslTag) : EslTag :=
  let ledIdx := cmd 2
  let newAbsTime := sysGetLe32 cmd 13
  let offsetTime := newAbsTime - t.absTime
  let start := (t.elems.ledDworks ledIdx.toNat).startAbsTime
  if cfg.ledMax = 0 then t.setError .invOpcode
  else if cfg.ledMax ≤ ledIdx.toNat then t.setError .invParams
  else if newAbsTime = 0 then
    ((t.ledDworkReset ledIdx.toNat).setLedState ledIdx).btEslBasicStateUpdate cfg
  else if eslTimedAbsMax ≤ offsetTime.toNat then t.setError .implausibleAbs
  else if start = 0 ∨ start = newAbsTime then
    let t := (t.ledDworkReset ledIdx.toNat).updateLed ledIdx.toNat fun w =>
      { w with startAbsTime := newAbsTime, patternIdx := eslLedFlashPatternStartBitIdx }
    let t := (t.setLedState ledIdx).btEslBasicStateUpdate cfg
    (t.storeLedObj ledIdx cmd).scheduleLed ledIdx.toNat offsetTime.toNat
  else t.setError .queueFull

/-! ## The handler -/

/-- The `default` label: a vendor-specific opcode, or none the tag knows. -/
def opDefault (opCode : UInt8) (t : EslTag) : EslTag :=
  if opCode &&& vendorSpecificStateMask ≠ 0 then
    if cfg.hasVsCommandHandler then t.setRespOp .vendorSpecificStateMask else t
  else t.setError .invOpcode

/-- The command switch. -/
def commandSwitch (cmd : Mem) (t : EslTag) : EslTag :=
  match EslOpCode.ofByte? (cmd 0) with
  | some .ping => t.setRespOp .basicState
  | some .unassociate => t.opUnassociate (cmd 1)
  | some .serviceReset => t.opServiceReset
  | some .factoryReset => t.opFactoryReset cfg (cmd 1)
  | some .updateComplete => t.opUpdateComplete cfg
  | some .readSensorData => t.opReadSensorData cfg cmd
  | some .refreshDisplay => t.opRefreshDisplay cfg cmd
  | some .displayImage => t.opDisplayImage cfg cmd
  | some .displayTimedImage => t.opDisplayTimedImage cfg cmd
  | some .ledControl => t.opLedControl cfg cmd
  | some .ledTimedControl => t.opLedTimedControl cfg cmd
  | none => t.opDefault cfg (cmd 0)

/-- The values every command starts from. -/
def startCommand (t : EslTag) : EslTag :=
  { t with ecp.notifyFunc := none, ecp.respNeeded := true, ecp.resp.respOp := .basicState }

/-- `check_ecp_esl_id` for a command that carries this tag's ID or the broadcast ID. -/
def checkBusy (t : EslTag) : EslTag :=
  if t.ecp.busy then { t.setError .retry with ecp.busy := false } else t

/-- `ecp_command_handler` before `ecp_response`: the tag, and whether an answer is built.  There
is none for a command that carries another ESL ID. -/
def executeCommand (buf : NetBuf) (t : EslTag) : EslTag × Bool :=
  let opCode := buf.data 0
  let t := t.startCommand
  if buf.len ≠ ecpLen opCode then (t.setError .invParams, true)
  else if opCode &&& vendorSpecificStateMask = vendorSpecificStateMask
      ∧ cfg.vendorSpecificSupport = false then (t.setError .invOpcode, true)
  else
    let eslId := buf.data 1
    if eslId ≠ t.assoc.eslAddr.eslId ∧ eslId ≠ eslAddrBroadcast then
      (t.setError .invParams, false)
    else
      let t := t.checkBusy
      if t.ecp.resp.respOp = .err then (t, true) else (t.commandSwitch cfg buf.data, true)

/-! ## The answer -/

/-- The bytes `ecp_response_handler` builds, from the response buffer on its stack. -/
def responseBytes (env : HandlerEnv) (t : EslTag) : List UInt8 :=
  let r := t.ecp.resp
  let op := r.respOp.toByte
  match r.respOp with
  | .err => [op, r.errorCode.toByte]
  | .ledState => [op, r.elemIdx]
  | .basicState => [op, lowByte t.basicState.toUInt16, highByte t.basicState.toUInt16]
  | .displayState => [op, r.elemIdx, r.imgIdx]
  | .sensorValueStateMask =>
      if cfg.hasSensorControl then
        match env.sensor with
        | .busy => [EslRespCode.err.toByte, EslRspErrCode.retry.toByte]
        | .reading len data => ((len &&& 0x0f) <<< 4 ||| op) :: r.elemIdx :: data.read 0 len.toNat
      else (env.stack.write 0 [op]).read 0 (ecpLen op)
  | .vendorSpecificStateMask =>
      if cfg.hasVsResponseHandler then
        ((env.stack.write 0 [op]).write 0 env.vendorBytes).read 0 env.vendorLen.toNat
      else (env.stack.write 0 [op]).read 0 (ecpLen op)

/-- What building the answer does to the tag: the default completion callback, and fresh Basic
State bits when they are reported. -/
def prepareResponse (t : EslTag) : EslTag :=
  let t := { t with ecp.notifyFunc := some (t.ecp.notifyFunc.getD .notifyCb) }
  if t.ecp.resp.respOp = .basicState then t.btEslBasicStateUpdate cfg else t

/-! ## What a command leaves alone -/

section Frame

variable {cfg} (t : EslTag)

@[simp] lemma assoc_setRespOp (op) : (t.setRespOp op).assoc = t.assoc := rfl
@[simp] lemma assoc_setError (e) : (t.setError e).assoc = t.assoc := rfl
@[simp] lemma elems_setError (e) : (t.setError e).elems = t.elems := rfl
@[simp] lemma basicState_setError (e) : (t.setError e).basicState = t.basicState := rfl
@[simp] lemma assoc_setLedState (i) : (t.setLedState i).assoc = t.assoc := rfl
@[simp] lemma assoc_setDisplayState (i j) : (t.setDisplayState i j).assoc = t.assoc := rfl
@[simp] lemma assoc_btEslBasicStateUpdate : (t.btEslBasicStateUpdate cfg).assoc = t.assoc := rfl
@[simp] lemma assoc_storeLedObj (i cmd) : (t.storeLedObj i cmd).assoc = t.assoc := rfl
@[simp] lemma assoc_scheduleLed (i n) : (t.scheduleLed i n).assoc = t.assoc := rfl
@[simp] lemma assoc_rescheduleDisplay (i n) : (t.rescheduleDisplay i n).assoc = t.assoc := rfl
@[simp] lemma assoc_startCommand : t.startCommand.assoc = t.assoc := rfl

@[simp] lemma assoc_opUnassociate (eslId) : (t.opUnassociate eslId).assoc = t.assoc := by
  unfold opUnassociate
  split <;> rfl

@[simp] lemma assoc_opReadSensorData (cmd) : (t.opReadSensorData cfg cmd).assoc = t.assoc := by
  simp only [opReadSensorData]
  split_ifs <;> rfl

@[simp] lemma assoc_opRefreshDisplay (cmd) : (t.opRefreshDisplay cfg cmd).assoc = t.assoc := by
  simp only [opRefreshDisplay]
  split_ifs <;> rfl

@[simp] lemma assoc_opDisplayImage (cmd) : (t.opDisplayImage cfg cmd).assoc = t.assoc := by
  simp only [opDisplayImage]
  split <;> rfl

@[simp] lemma assoc_opDisplayTimedImage (cmd) :
    (t.opDisplayTimedImage cfg cmd).assoc = t.assoc := by
  simp only [opDisplayTimedImage]
  split
  · rfl
  · split_ifs <;> rfl

@[simp] lemma assoc_opLedControl (cmd) : (t.opLedControl cfg cmd).assoc = t.assoc := by
  simp only [opLedControl]
  split_ifs <;> rfl

@[simp] lemma assoc_opLedTimedControl (cmd) :
    (t.opLedTimedControl cfg cmd).assoc = t.assoc := by
  simp only [opLedTimedControl]
  split_ifs <;> rfl

@[simp] lemma assoc_opDefault (op) : (t.opDefault cfg op).assoc = t.assoc := by
  simp only [opDefault]
  split_ifs <;> rfl

@[simp] lemma assoc_prepareResponse : (t.prepareResponse cfg).assoc = t.assoc := by
  simp only [prepareResponse]
  split <;> rfl

end Frame

/-! ## A command is its bytes

The handler checks the length first and then reads inside it, so two buffers with the same bytes
have the same effect whatever lies behind them. -/

section Bytes

variable {cfg} (t : EslTag) {cmd cmd' : Mem}

lemma sysGetLe32_congr {off : ℕ} (h : ∀ i < 4, cmd (off + i) = cmd' (off + i)) :
    sysGetLe32 cmd off = sysGetLe32 cmd' off := by
  have h₀ := h 0 (by omega)
  have h₁ := h 1 (by omega)
  have h₂ := h 2 (by omega)
  have h₃ := h 3 (by omega)
  rw [Nat.add_zero] at h₀
  simp only [sysGetLe32, h₀, h₁, h₂, h₃]

/-- An LED object is read from the first 13 bytes. -/
lemma ledObjOfCommand_congr (h : ∀ i < 13, cmd i = cmd' i) :
    ledObjOfCommand cmd = ledObjOfCommand cmd' := by
  have hp : (Vector.ofFn fun i : Fin 5 => cmd (4 + i)) = Vector.ofFn fun i => cmd' (4 + i) := by
    refine congrArg Vector.ofFn (funext fun i => h _ ?_)
    omega
  simp only [ledObjOfCommand, hp, h 3 (by omega), h 9 (by omega), h 10 (by omega),
    h 11 (by omega), h 12 (by omega)]

lemma storeLedObj_congr (ledIdx : UInt8) (h : ∀ i < 13, cmd i = cmd' i) :
    t.storeLedObj ledIdx cmd = t.storeLedObj ledIdx cmd' := by
  simp only [storeLedObj, ledObjOfCommand_congr h, h 3 (by omega)]

/-- The command switch reads no more bytes than the opcode declares. -/
lemma commandSwitch_congr (h : ∀ i < ecpLen (cmd 0), cmd i = cmd' i) :
    t.commandSwitch cfg cmd = t.commandSwitch cfg cmd' := by
  have h₀ : cmd 0 = cmd' 0 := h 0 (by have := two_le_ecpLen (cmd 0); omega)
  have h₁ : cmd 1 = cmd' 1 := h 1 (by have := two_le_ecpLen (cmd 0); omega)
  unfold commandSwitch
  rw [← h₀, ← h₁]
  cases hop : EslOpCode.ofByte? (cmd 0) with
  | none => rfl
  | some op =>
      rw [EslOpCode.ofByte?_eq_some.mp hop] at h
      cases op with
      | readSensorData =>
          have h₂ : cmd 2 = cmd' 2 := h 2 (by decide)
          simp only [opReadSensorData, h₂]
      | refreshDisplay =>
          have h₂ : cmd 2 = cmd' 2 := h 2 (by decide)
          simp only [opRefreshDisplay, h₂]
      | displayImage =>
          have h₂ : cmd 2 = cmd' 2 := h 2 (by decide)
          have h₃ : cmd 3 = cmd' 3 := h 3 (by decide)
          simp only [opDisplayImage, h₂, h₃]
      | displayTimedImage =>
          have hlen : ecpLen EslOpCode.displayTimedImage.toByte = 8 := by decide
          have hle : sysGetLe32 cmd 4 = sysGetLe32 cmd' 4 :=
            sysGetLe32_congr fun i hi => h _ (by omega)
          simp only [opDisplayTimedImage, h 2 (by omega), h 3 (by omega), hle]
      | ledControl =>
          have hlen : ecpLen EslOpCode.ledControl.toByte = 13 := by decide
          rw [hlen] at h
          simp only [opLedControl, h 2 (by omega), storeLedObj_congr _ _ h]
      | ledTimedControl =>
          have hlen : ecpLen EslOpCode.ledTimedControl.toByte = 17 := by decide
          have hle : sysGetLe32 cmd 13 = sysGetLe32 cmd' 13 :=
            sysGetLe32_congr fun i hi => h _ (by omega)
          simp only [opLedTimedControl, h 2 (by omega), hle,
            storeLedObj_congr _ _ fun i hi => h i (by omega)]
      | _ => rfl

/-- **The effect of a command depends on its bytes only.** -/
theorem executeCommand_congr {buf buf' : NetBuf} (hlen : 2 ≤ buf.len)
    (h : buf.bytes = buf'.bytes) : t.executeCommand cfg buf = t.executeCommand cfg buf' := by
  have hl : buf.len = buf'.len := by simpa using congrArg List.length h
  have hd : ∀ i < buf.len, buf.data i = buf'.data i := by
    intro i hi
    have hi' := congrArg (·[i]?) h
    simpa [NetBuf.bytes, Mem.read, hi, hl ▸ hi] using hi'
  have h₀ := hd 0 (by omega)
  have h₁ := hd 1 (by omega)
  simp only [executeCommand, ← hl, ← h₀, ← h₁]
  split
  · rfl
  · rename_i hne
    have hsw : ∀ t : EslTag, t.commandSwitch cfg buf.data = t.commandSwitch cfg buf'.data :=
      fun t => t.commandSwitch_congr fun i hi => hd i (by omega)
    simp only [hsw]

end Bytes

/-! ## Which commands reach the switch -/

section Switch

variable {cfg} {t : EslTag} {buf : NetBuf}

/-- A command with the tag's or the broadcast ID passes the check of the ESL ID. -/
lemma not_foreign (hid : buf.data 1 = t.assoc.eslAddr.eslId ∨ buf.data 1 = eslAddrBroadcast) :
    ¬ (buf.data 1 ≠ t.startCommand.assoc.eslAddr.eslId ∧ buf.data 1 ≠ eslAddrBroadcast) := by
  rw [assoc_startCommand]
  tauto

/-- A command of its declared length with the tag's or the broadcast ID is answered. -/
lemma executeCommand_answered (hlen : buf.len = ecpLen (buf.data 0))
    (hid : buf.data 1 = t.assoc.eslAddr.eslId ∨ buf.data 1 = eslAddrBroadcast) :
    (t.executeCommand cfg buf).2 = true := by
  simp only [executeCommand]
  rw [if_neg (not_not.mpr hlen), if_neg (not_foreign hid)]
  split_ifs <;> rfl

/-- Such a command reaches the switch when the tag is not busy and supports its kind. -/
lemma executeCommand_switch (hlen : buf.len = ecpLen (buf.data 0))
    (hid : buf.data 1 = t.assoc.eslAddr.eslId ∨ buf.data 1 = eslAddrBroadcast)
    (hvendor : ¬ (buf.data 0 &&& vendorSpecificStateMask = vendorSpecificStateMask
      ∧ cfg.vendorSpecificSupport = false))
    (hbusy : t.ecp.busy = false) :
    t.executeCommand cfg buf = (t.startCommand.commandSwitch cfg buf.data, true) := by
  have hcheck : t.startCommand.checkBusy = t.startCommand := by
    simp [checkBusy, startCommand, hbusy]
  have hresp : t.startCommand.ecp.resp.respOp ≠ .err := by simp [startCommand]
  simp only [executeCommand]
  rw [if_neg (not_not.mpr hlen), if_neg hvendor, if_neg (not_foreign hid), hcheck, if_neg hresp]

/-- A busy tag answers Retry instead. -/
lemma executeCommand_busy (hlen : buf.len = ecpLen (buf.data 0))
    (hid : buf.data 1 = t.assoc.eslAddr.eslId ∨ buf.data 1 = eslAddrBroadcast)
    (hvendor : ¬ (buf.data 0 &&& vendorSpecificStateMask = vendorSpecificStateMask
      ∧ cfg.vendorSpecificSupport = false))
    (hbusy : t.ecp.busy = true) :
    t.executeCommand cfg buf = ({ t.startCommand.setError .retry with ecp.busy := false }, true) := by
  have hcheck : t.startCommand.checkBusy
      = { t.startCommand.setError .retry with ecp.busy := false } := by
    have hb : t.startCommand.ecp.busy = true := hbusy
    rw [checkBusy, if_pos hb]
  simp only [executeCommand]
  rw [if_neg (not_not.mpr hlen), if_neg hvendor, if_neg (not_foreign hid), hcheck]
  rfl

/-- The command passes every check before the switch. -/
def ReachesSwitch (cfg : Config) (buf : NetBuf) (t : EslTag) : Prop :=
  buf.len = ecpLen (buf.data 0)
    ∧ (buf.data 1 = t.assoc.eslAddr.eslId ∨ buf.data 1 = eslAddrBroadcast)
    ∧ ¬ (buf.data 0 &&& vendorSpecificStateMask = vendorSpecificStateMask
      ∧ cfg.vendorSpecificSupport = false)
    ∧ t.ecp.busy = false

instance (cfg : Config) (buf : NetBuf) (t : EslTag) : Decidable (ReachesSwitch cfg buf t) :=
  inferInstanceAs (Decidable (_ ∧ _ ∧ _ ∧ _))

lemma ReachesSwitch.executeCommand (h : ReachesSwitch cfg buf t) :
    t.executeCommand cfg buf = (t.startCommand.commandSwitch cfg buf.data, true) :=
  executeCommand_switch h.1 h.2.1 h.2.2.1 h.2.2.2

/-- What a command that is refused before the switch leaves alone. -/
structure Untouched (t t' : EslTag) : Prop where
  assoc : t'.assoc = t.assoc
  elems : t'.elems = t.elems
  basicState : t'.basicState = t.basicState
  uptime : t'.uptime = t.uptime
  out : t'.out = t.out

/-- **A command that is refused before the switch** only prepares its answer. -/
lemma untouched_executeCommand (h : ¬ ReachesSwitch cfg buf t) :
    Untouched t (t.executeCommand cfg buf).1 := by
  have hbusy : Untouched t t.startCommand.checkBusy := by
    simp only [checkBusy]
    split <;> constructor <;> rfl
  simp only [EslTag.executeCommand]
  split_ifs with hlen hvendor hid hresp
  · constructor <;> rfl
  · constructor <;> rfl
  · constructor <;> rfl
  · exact hbusy
  · refine absurd ⟨not_not.mp hlen, ?_, hvendor, ?_⟩ h
    · rw [assoc_startCommand] at hid
      tauto
    · by_contra hb
      have hb' : t.startCommand.ecp.busy = true := by simpa [startCommand] using hb
      rw [checkBusy, if_pos hb'] at hresp
      exact hresp rfl

end Switch

/-! ## The completion callback -/

section NotifyFunc

variable {cfg} (t : EslTag)

@[simp] lemma ecp_btEslStateTransition (state : EslState) :
    (t.btEslStateTransition cfg state).ecp = t.ecp := by
  refine frame_btEslStateTransition t (fun _ _ _ => rfl) ?_ state
  intro t
  rw [btEslAdvStop]
  split <;> rfl

@[simp] lemma ecp_btEslFactoryReset : (t.btEslFactoryReset cfg).ecp = t.ecp := by
  have hdel : (t.btEslDeleteImages cfg).ecp = t.ecp := by
    unfold btEslDeleteImages
    split <;> rfl
  have hstop : ∀ t : EslTag, (t.eslStopSyncPawr cfg).ecp = t.ecp := by
    intro t
    simp only [eslStopSyncPawr, termCbTail]
    split_ifs <;> simp
  have hleds : ∀ t : EslTag, (t.ledDworkResetAll cfg).ecp = t.ecp := fun t =>
    foldl_frame (fun t idx => t.ledDworkReset idx) (·.ecp) (fun _ _ => rfl) _ t
  simp only [btEslFactoryReset, btEslUnassociate]
  split_ifs <;> simp [eslInitProvisionedData, eslSettingsDeleteProvisionedData, btEslDisconnect,
    hdel, hstop, hleds]

lemma commandSwitch_unassociate {cmd : Mem} (h : cmd 0 = EslOpCode.unassociate.toByte) :
    t.commandSwitch cfg cmd = t.opUnassociate (cmd 1) := by
  rw [commandSwitch, EslOpCode.ofByte?_eq_some.mpr h]

lemma commandSwitch_factoryReset {cmd : Mem} (h : cmd 0 = EslOpCode.factoryReset.toByte) :
    t.commandSwitch cfg cmd = t.opFactoryReset cfg (cmd 1) := by
  rw [commandSwitch, EslOpCode.ofByte?_eq_some.mpr h]

/-- Unassociate and Factory Reset apart, a command leaves the callback and the need for a response
as they are. -/
lemma ecp_commandSwitch (cmd : Mem) (hun : cmd 0 ≠ EslOpCode.unassociate.toByte)
    (hfr : cmd 0 ≠ EslOpCode.factoryReset.toByte) :
    (t.commandSwitch cfg cmd).ecp.notifyFunc = t.ecp.notifyFunc
      ∧ (t.commandSwitch cfg cmd).ecp.respNeeded = t.ecp.respNeeded := by
  cases hop : EslOpCode.ofByte? (cmd 0) with
  | none =>
      simp only [commandSwitch, hop, opDefault]
      split_ifs <;> exact ⟨rfl, rfl⟩
  | some op =>
      have hb := EslOpCode.ofByte?_eq_some.mp hop
      simp only [commandSwitch, hop]
      cases op with
      | unassociate => exact absurd hb hun
      | factoryReset => exact absurd hb hfr
      | updateComplete =>
          simp only [opUpdateComplete, eslIsConfiguringState]
          split_ifs <;> simp
      | readSensorData =>
          simp only [opReadSensorData]
          split_ifs <;> exact ⟨rfl, rfl⟩
      | refreshDisplay =>
          simp only [opRefreshDisplay]
          split_ifs <;> exact ⟨rfl, rfl⟩
      | displayImage =>
          simp only [opDisplayImage]
          split <;> exact ⟨rfl, rfl⟩
      | displayTimedImage =>
          simp only [opDisplayTimedImage]
          split
          · exact ⟨rfl, rfl⟩
          · split_ifs <;> exact ⟨rfl, rfl⟩
      | ledControl =>
          simp only [opLedControl]
          split_ifs <;> exact ⟨rfl, rfl⟩
      | ledTimedControl =>
          simp only [opLedTimedControl]
          split_ifs <;> exact ⟨rfl, rfl⟩
      | _ => exact ⟨rfl, rfl⟩

/-- Only Unassociate asks for the unassociating callback. -/
lemma notifyFunc_commandSwitch (cmd : Mem) :
    (t.commandSwitch cfg cmd).ecp.notifyFunc
      = if cmd 0 = 0x01 ∧ cmd 1 ≠ eslAddrBroadcast then some .unassociatedCb
        else t.ecp.notifyFunc := by
  by_cases hun : cmd 0 = EslOpCode.unassociate.toByte
  · have h₁ : cmd 0 = 0x01 := hun
    rw [commandSwitch_unassociate t hun, opUnassociate]
    simp only [h₁, true_and]
    split <;> rfl
  · have h₁ : ¬ cmd 0 = 0x01 := hun
    simp only [h₁, false_and, if_false]
    by_cases hfr : cmd 0 = EslOpCode.factoryReset.toByte
    · rw [commandSwitch_factoryReset t hfr, opFactoryReset]
      split_ifs <;> simp [setError]
    · exact (ecp_commandSwitch t cmd hun hfr).1

/-- Only Factory Reset does without a response. -/
lemma respNeeded_executeCommand (buf : NetBuf)
    (h : buf.data 0 ≠ EslOpCode.factoryReset.toByte) :
    (t.executeCommand cfg buf).1.ecp.respNeeded = true := by
  have hbusy : t.startCommand.checkBusy.ecp.respNeeded = true := by
    simp only [checkBusy]
    split <;> rfl
  simp only [executeCommand]
  split_ifs
  · rfl
  · rfl
  · rfl
  · exact hbusy
  · by_cases hun : buf.data 0 = EslOpCode.unassociate.toByte
    · rw [commandSwitch_unassociate _ hun, opUnassociate]
      split <;> exact hbusy
    · rw [(ecp_commandSwitch _ buf.data hun h).2, hbusy]

end NotifyFunc

end EslTag

end NrfEsl
