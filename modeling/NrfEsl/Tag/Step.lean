import NrfEsl.Lib.TransitionSystem
import NrfEsl.Tag.Parser

/-!
# Events of a tag

`TagDevice.step` is the tag as a partial step function: one event for each handler the stack,
a work queue or the application may call.  Callbacks of the stack are always enabled; a work item
runs only when it is queued or due, the parser only when it is not waiting for the command work.
-/

namespace NrfEsl

/-- What can happen to a tag. -/
inductive TagEvent
  /-- Time passes. -/
  | tick (ms : ℕ)
  | connected (err : UInt8)
  | disconnected (reason : UInt8)
  | securityChanged (err : Bool)
  | eslAddrWrite (w : AttWrite)
  | apKeyWrite (w : AttWrite)
  | eslRspKeyWrite (w : AttWrite)
  | absTimeWrite (w : AttWrite)
  | eslControlWrite (w : AttWrite)
  /-- The system work queue runs the command work. -/
  | ecpWork (env : HandlerEnv)
  /-- The stack has sent the oldest notification. -/
  | notifySent
  | syncCb
  | termCb
  | recvCb (periodicEventCounter : UInt16) (subevent : UInt8) (buf : NetBuf)
  /-- The PAwR work queue takes up the received packet, with some stale stack. -/
  | pawrSyncWork (stack : Mem)
  /-- The parser makes one turn. -/
  | parserStep (rnd : Randomness)
  | stateTimeout
  | ledWork (idx : ℕ)
  | displayWork (idx : ℕ)
  | advWork
  /-- The last chunk of an image has been written over OTS. -/
  | imageWritten (imgIdx : ℕ) (size : UInt32)
  /-- Factory reset by button or shell. -/
  | factoryReset
  /-- Unassociate by shell. -/
  | unassociate
  /-- The shell marks the tag busy. -/
  | busy
  | reboot (p : EslTag.BootParam)

namespace TagDevice

variable (cfg : Config) (ead : Ead)

/-- Apply a handler that only touches the tag proper. -/
def onTag (f : EslTag → EslTag) (d : TagDevice) : TagDevice := { d with tag := f d.tag }

/-- `esl_pawr_sync_work_fn` up to the first turn of the parser. -/
def pawrSyncWorkFn (stack : Mem) (d : TagDevice) : TagDevice :=
  let d := { d with pawrSyncWork.pending := false }
  let r := (decryptPacket ead d.tag.assoc.eslApKey stack d.pawrSyncWork.buf).val
  let d := { d with pawrSyncWork.buf := r.2 }
  if r.1 = true ∧ r.2.len ≠ 0 then
    let d := d.beginPacket
    if d.parser.isSome then d else d.renewTimeout cfg
  else d

/-- One event. -/
def step (d : TagDevice) : TagEvent → Option TagDevice
  | .tick ms => some (d.onTag fun t => { t with uptime := t.uptime + ms })
  | .connected err => some (d.onTag (·.connected cfg err))
  | .disconnected reason => some (d.onTag (·.disconnected cfg reason))
  | .securityChanged err => some (d.onTag (·.securityChanged cfg err))
  | .eslAddrWrite w => some (d.onTag fun t => (t.eslAddrWrite cfg w).2)
  | .apKeyWrite w => some (d.onTag fun t => (t.apKeyWrite cfg w).2)
  | .eslRspKeyWrite w => some (d.onTag fun t => (t.eslRspKeyWrite cfg w).2)
  | .absTimeWrite w => some (d.onTag fun t => (t.absTimeWrite cfg w).2)
  | .eslControlWrite w => some (d.eslControlWrite w).2
  | .ecpWork env => if d.ecpWorkPending then some (d.ecpCommandHandler cfg env) else none
  | .notifySent =>
      match d.notifications with
      | [] => none
      | n :: rest => some ({ d with notifications := rest }.notifyComplete cfg n.func)
  | .syncCb => some (d.onTag (·.syncCb cfg))
  | .termCb => some (d.onTag (·.termCb cfg))
  | .recvCb counter subevent buf => some (d.recvCb cfg counter subevent buf)
  | .pawrSyncWork stack =>
      if d.pawrSyncWork.pending = true ∧ d.parser = none then some (d.pawrSyncWorkFn cfg ead stack)
      else none
  | .parserStep rnd => d.parserStep cfg ead rnd
  | .stateTimeout =>
      if d.tag.assoc.stateTimeoutWork.work.Due d.tag.uptime then
        some (d.onTag fun t =>
          { t with assoc.stateTimeoutWork.work := none }.eslStateTimeoutWorkFn cfg)
      else none
  | .ledWork idx =>
      if (d.tag.elems.ledDworks idx).work.Due d.tag.uptime then
        some (d.onTag (·.ledDelayWorkerFn cfg idx))
      else none
  | .displayWork idx =>
      if (d.tag.elems.displayWorks idx).work.Due d.tag.uptime then
        some (d.onTag (·.displayDelayWorkerFn cfg idx))
      else none
  | .advWork =>
      if d.tag.assoc.advWork.Due d.tag.uptime then some (d.onTag (·.eslAdvertisingFn cfg))
      else none
  | .imageWritten imgIdx size =>
      some (d.onTag fun t =>
        { t with elems.storedImageSize := Function.update t.elems.storedImageSize imgIdx size })
  | .factoryReset => some (d.onTag (·.btEslFactoryReset cfg))
  | .unassociate => some (d.onTag (·.btEslUnassociate cfg))
  | .busy => some (d.onTag fun t => { t with ecp.busy := true })
  | .reboot p => some (boot cfg { p with settings := d.tag.assoc.settings })

/-- The initial states: a tag that boots with an empty settings store. -/
def Init (d : TagDevice) : Prop := ∃ p : EslTag.BootParam, p.settings = {} ∧ d = boot cfg p

/-- The states a tag can be in. -/
def Reachable (d : TagDevice) : Prop := TransitionSystem.Reachable (step cfg ead) (Init cfg) d

/-! ## When a work runs -/

variable {cfg : Config} {ead : Ead} {d d' : TagDevice}

lemma step_ecpWork_eq_some {env : HandlerEnv} : d.step cfg ead (.ecpWork env) = some d'
    ↔ d.ecpWorkPending = true ∧ d.ecpCommandHandler cfg env = d' := by
  rw [step, Option.ite_none_right_eq_some, Option.some_inj]

lemma step_notifySent_eq_some : d.step cfg ead .notifySent = some d'
    ↔ ∃ n rest, d.notifications = n :: rest
      ∧ { d with notifications := rest }.notifyComplete cfg n.func = d' := by
  rw [step]
  constructor
  · intro h
    split at h
    · cases h
    · exact ⟨_, _, ‹_›, Option.some.inj h⟩
  · rintro ⟨n, rest, hn, rfl⟩
    rw [hn]

lemma step_pawrSyncWork_eq_some {stack : Mem} : d.step cfg ead (.pawrSyncWork stack) = some d'
    ↔ (d.pawrSyncWork.pending = true ∧ d.parser = none)
      ∧ d.pawrSyncWorkFn cfg ead stack = d' := by
  rw [step, Option.ite_none_right_eq_some, Option.some_inj]

lemma step_stateTimeout_eq_some : d.step cfg ead .stateTimeout = some d'
    ↔ d.tag.assoc.stateTimeoutWork.work.Due d.tag.uptime
      ∧ d.onTag (fun t => { t with assoc.stateTimeoutWork.work := none }.eslStateTimeoutWorkFn cfg)
        = d' := by
  rw [step, Option.ite_none_right_eq_some, Option.some_inj]

lemma step_ledWork_eq_some {idx : ℕ} : d.step cfg ead (.ledWork idx) = some d'
    ↔ (d.tag.elems.ledDworks idx).work.Due d.tag.uptime
      ∧ d.onTag (·.ledDelayWorkerFn cfg idx) = d' := by
  rw [step, Option.ite_none_right_eq_some, Option.some_inj]

lemma step_displayWork_eq_some {idx : ℕ} : d.step cfg ead (.displayWork idx) = some d'
    ↔ (d.tag.elems.displayWorks idx).work.Due d.tag.uptime
      ∧ d.onTag (·.displayDelayWorkerFn cfg idx) = d' := by
  rw [step, Option.ite_none_right_eq_some, Option.some_inj]

lemma step_advWork_eq_some : d.step cfg ead .advWork = some d'
    ↔ d.tag.assoc.advWork.Due d.tag.uptime ∧ d.onTag (·.eslAdvertisingFn cfg) = d' := by
  rw [step, Option.ite_none_right_eq_some, Option.some_inj]

end TagDevice

/-! ## A sample run -/

/-- An LED Control: LED 0 is to flash once. -/
def flashOnce (eslId : UInt8) : List UInt8 := [0xB0, eslId, 0, 0, 0x7F, 0, 0, 0, 0, 10, 10, 1, 0]

/-- The tag is configured as address 0x0001 and synchronised, then updated over a new link. -/
def configuredAndUpdating : List TagEvent :=
  [ .connected 0
  , .eslAddrWrite (.ofBytes [0x01, 0x00])
  , .apKeyWrite (.ofBytes (List.replicate 24 0x11))
  , .eslRspKeyWrite (.ofBytes (List.replicate 24 0x22))
  , .absTimeWrite (.ofBytes [0, 0, 0, 0])
  , .eslControlWrite (.ofBytes [0x04, 0x01]), .ecpWork {}, .notifySent
  , .syncCb
  , .disconnected 0x16
  , .connected 0
  , .securityChanged false ]

end NrfEsl
