import Mathlib.Logic.Function.Basic
import NrfEsl.Common

/-!
# State of a tag

`EslTag` is what the handlers of the tag read and write apart from its communication buffers:
`struct bt_esls`, the static variables of `esl.c`, what the settings store holds, and the part of
the Bluetooth stack the service depends on.  It is split by subsystem, so that a handler of one
subsystem leaves the others alone by construction.

* `Assoc` — **association**: state machine, provisioned data with its bits, timeouts, settings,
  PAST subscription and PAwR sync.
* `Elements` — **LEDs and displays**: objects, delayed works, stored image sizes.
* `BasicState` — the bits every Basic State response reports.
* `EcpState` — the command in flight: its response, its completion callback.

**Time** is the uptime in milliseconds.  A delayed work item is the uptime it is scheduled for;
`k_work_schedule` keeps an existing schedule, `k_work_reschedule` replaces it.

**Outputs.**  Calls into the application and the stack that leave no trace in this state are
appended to `out`.
-/

namespace NrfEsl

/-! ## Delayed work -/

/-- A delayed work item: the uptime it is scheduled for, if it is. -/
abbrev DelayableWork := Option ℕ

/-- `k_work_schedule`: an item that is already scheduled stays as it is. -/
def DelayableWork.schedule (w : DelayableWork) (now delay : ℕ) : DelayableWork :=
  match w with
  | some d => some d
  | none => some (now + delay)

/-- `k_work_reschedule` -/
def DelayableWork.reschedule (_ : DelayableWork) (now delay : ℕ) : DelayableWork :=
  some (now + delay)

/-- `k_work_cancel_delayable` -/
def DelayableWork.cancel (_ : DelayableWork) : DelayableWork := none

/-- The work queue may run the item now. -/
def DelayableWork.Due (w : DelayableWork) (now : ℕ) : Prop := ∃ d, w = some d ∧ d ≤ now

instance (w : DelayableWork) (now : ℕ) : Decidable (w.Due now) :=
  match w with
  | none => isFalse (by rintro ⟨d, h, -⟩; cases h)
  | some d => decidable_of_iff (d ≤ now) ⟨fun h => ⟨d, rfl, h⟩, by rintro ⟨_, h, h'⟩; cases h; exact h'⟩

/-! ## Association -/

/-- `enum esl_configuring_state_bit` -/
structure ConfiguringState where
  addrSet : Bool := false
  apSyncKeySet : Bool := false
  responseKeySet : Bool := false
  absTimeSet : Bool := false
  updateCompleteSet : Bool := false
  deriving DecidableEq, Repr

/-- All four provisioning bits are set. -/
def ConfiguringState.Provisioned (c : ConfiguringState) : Prop :=
  c.addrSet = true ∧ c.apSyncKeySet = true ∧ c.responseKeySet = true ∧ c.absTimeSet = true

instance (c : ConfiguringState) : Decidable c.Provisioned :=
  inferInstanceAs (Decidable (_ ∧ _ ∧ _ ∧ _))

/-- `enum ESL_BASIC_STATE_BIT`; the remaining bits stay zero. -/
structure BasicState where
  serviceNeeded : Bool := false
  synchronized : Bool := false
  activeLed : Bool := false
  pendingLedUpdate : Bool := false
  pendingDisplayUpdate : Bool := false
  deriving DecidableEq, Repr

/-- The bit field as reported. -/
def BasicState.toUInt16 (b : BasicState) : UInt16 :=
  b.serviceNeeded.toUInt16 ||| (b.synchronized.toUInt16 <<< 1) |||
    (b.activeLed.toUInt16 <<< 2) ||| (b.pendingLedUpdate.toUInt16 <<< 3) |||
    (b.pendingDisplayUpdate.toUInt16 <<< 4)

/-- The keys below `esl/` in the settings store. -/
structure Settings where
  eslAddr : Option EslAddr := none
  eslApKey : Option KeyMaterial := none
  eslRspKey : Option KeyMaterial := none
  eslAbsTime : Bool := false
  deriving DecidableEq, Repr

/-- `struct esl_state_timeout_work_info` -/
structure StateTimeoutWork where
  work : DelayableWork
  mode : EslTimeoutMode
  deriving DecidableEq, Repr

/-- State machine, provisioned data and link to the PAwR train. -/
structure Assoc where
  eslState : EslState
  configuringState : ConfiguringState
  eslAddr : EslAddr
  eslApKey : KeyMaterial
  eslRspKey : KeyMaterial
  absTimeAnchor : UInt32
  connectFrom : EslAclSource
  smTimeoutUpdateNeeded : Bool
  stateTimeoutWork : StateTimeoutWork
  advWork : DelayableWork
  settings : Settings
  /-- The stack holds a PAST subscription of the service. -/
  pastSubscribed : Bool
  /-- `pawr_sync` names a running sync. -/
  pawrSynced : Bool
  /-- A link to an AP is up. -/
  linkUp : Bool
  deriving DecidableEq, Repr

/-! ## LEDs and displays -/

/-- `struct led_obj`, without the fields nothing reads. -/
structure LedObj where
  colorBrightness : UInt8
  flashPattern : Vector UInt8 5
  bitOffPeriod : UInt8
  bitOnPeriod : UInt8
  repeatType : UInt8
  repeatDuration : UInt16
  deriving DecidableEq, Repr

/-- `struct led_dwork` -/
structure LedDwork where
  work : DelayableWork
  patternIdx : UInt8
  repeatCounts : UInt8
  stopAbsTime : UInt32
  startAbsTime : UInt32
  workEnable : Bool
  active : Bool
  deriving DecidableEq, Repr

/-- `struct display_dwork` -/
structure DisplayDwork where
  work : DelayableWork
  imgIdx : UInt8
  startAbsTime : UInt32
  active : Bool
  deriving DecidableEq, Repr

/-- The elements of the tag, by index. -/
structure Elements where
  ledObjs : ℕ → LedObj
  ledType : ℕ → UInt8
  ledDworks : ℕ → LedDwork
  displayWorks : ℕ → DisplayDwork
  storedImageSize : ℕ → UInt32

/-! ## Commands -/

/-- `struct esl_ecp_resp`; the three element indexes share one byte. -/
structure EslEcpResp where
  respOp : EslRespCode
  errorCode : EslRspErrCode
  elemIdx : UInt8
  imgIdx : UInt8
  deriving DecidableEq, Repr

/-- `ecp_notify_params.func` -/
inductive NotifyFunc
  | unassociatedCb | notifyCb
  deriving DecidableEq, Repr

/-- The command in flight. -/
structure EcpState where
  resp : EslEcpResp
  notifyFunc : Option NotifyFunc
  respNeeded : Bool
  busy : Bool
  deriving DecidableEq, Repr

/-- Calls out of the service. -/
inductive TagOutput
  | ledControl (ledIdx : ℕ) (colorBrightness : UInt8) (onoff : Bool)
  | displayControl (displayIdx : ℕ) (imgIdx : UInt8)
  | displayUnassociated
  | displayAssociated
  | deleteImgs
  | advStart
  | advStop
  | disconnect
  | unpair
  deriving DecidableEq, Repr

/-- A tag, apart from its communication buffers. -/
structure EslTag where
  assoc : Assoc
  elems : Elements
  basicState : BasicState
  ecp : EcpState
  eslRandomizer : Vector UInt8 5
  uptime : ℕ
  out : List TagOutput

namespace EslTag

/-- Record a call out of the service. -/
def emit (t : EslTag) (o : TagOutput) : EslTag := { t with out := t.out ++ [o] }

@[simp] lemma assoc_emit (t : EslTag) (o) : (t.emit o).assoc = t.assoc := rfl
@[simp] lemma elems_emit (t : EslTag) (o) : (t.emit o).elems = t.elems := rfl
@[simp] lemma basicState_emit (t : EslTag) (o) : (t.emit o).basicState = t.basicState := rfl
@[simp] lemma ecp_emit (t : EslTag) (o) : (t.emit o).ecp = t.ecp := rfl
@[simp] lemma uptime_emit (t : EslTag) (o) : (t.emit o).uptime = t.uptime := rfl

/-- `esl_get_abs_time` -/
def absTime (t : EslTag) : UInt32 := UInt32.ofNat t.uptime - t.assoc.absTimeAnchor

/-- `esl_abs_time_update` -/
def absTimeUpdate (t : EslTag) (newAbsTime : UInt32) : EslTag :=
  { t with assoc.absTimeAnchor := UInt32.ofNat t.uptime - newAbsTime }

/-- Update the delayed work of one LED. -/
def updateLed (t : EslTag) (idx : ℕ) (f : LedDwork → LedDwork) : EslTag :=
  { t with elems.ledDworks := Function.update t.elems.ledDworks idx (f (t.elems.ledDworks idx)) }

/-- Update the delayed work of one display. -/
def updateDisplay (t : EslTag) (idx : ℕ) (f : DisplayDwork → DisplayDwork) : EslTag :=
  { t with elems.displayWorks :=
      Function.update t.elems.displayWorks idx (f (t.elems.displayWorks idx)) }

@[simp] lemma assoc_updateLed (t : EslTag) (idx f) : (t.updateLed idx f).assoc = t.assoc := rfl
@[simp] lemma basicState_updateLed (t : EslTag) (idx f) :
    (t.updateLed idx f).basicState = t.basicState := rfl
@[simp] lemma uptime_updateLed (t : EslTag) (idx f) : (t.updateLed idx f).uptime = t.uptime := rfl
@[simp] lemma assoc_updateDisplay (t : EslTag) (idx f) :
    (t.updateDisplay idx f).assoc = t.assoc := rfl
@[simp] lemma basicState_updateDisplay (t : EslTag) (idx f) :
    (t.updateDisplay idx f).basicState = t.basicState := rfl

lemma ledDworks_updateLed (t : EslTag) (idx : ℕ) (f) (i : ℕ) :
    (t.updateLed idx f).elems.ledDworks i
      = if i = idx then f (t.elems.ledDworks idx) else t.elems.ledDworks i := by
  simp only [updateLed, Function.update_apply]

end EslTag

end NrfEsl
