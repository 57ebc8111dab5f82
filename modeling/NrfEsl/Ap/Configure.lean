import NrfEsl.Ap.TagStorage
import NrfEsl.Ap.Unassociate

/-!
# The configuration of tags by the access point

`bt_esl_configure` puts a connection and an address into the one `esl_ap_config_work` and schedules its
worker, which writes address, keys and absolute time, reads the tag's characteristics, saves the tag
and sends Update Complete.

`esl_ap_config_work_fn` takes `conn_idx` and `esl_addr` from the work item each time it needs them, so
it is cut before every statement that does.  Each of the four writes waits for its completion, and
its outcome is only logged.

**Ghost.**  `log` is not in the source: what has been done on which connection.
-/

namespace NrfEsl

/-- A characteristic the worker writes, with its value. -/
inductive ConfigWrite
  | eslAddr (eslAddr : UInt16)
  | apKey (key : KeyMaterial)
  | rspKey (key : KeyMaterial)
  | absTime (absTime : UInt32)
  deriving DecidableEq, Repr

inductive ConfigAction
  | configure (eslAddr : UInt16)
  | write (chrc : ConfigWrite) (succeeded : Bool)
  | save (tag : EslChrcData)
  /-- Not `sent` when the connection is gone by then. -/
  | updateComplete (sent : Bool)
  /-- "#CONFIGURED: 1" -/
  | configured (eslAddr : UInt16)
  /-- "#CONFIGURED: 0" -/
  | refused (eslAddr : UInt16)
  deriving DecidableEq, Repr

/-- Where `esl_ap_config_work_fn` goes on. -/
inductive ConfigStep
  | check | writeEslAddr | apKeyUpdate | rspKeyUpdate | tagAbsTimerUpdate | readChrc | pastNeeded
  | saveTag | updateComplete | report
  deriving DecidableEq, Repr

def ConfigStep.next : ConfigStep → Option ConfigStep
  | .check => some .writeEslAddr
  | .writeEslAddr => some .apKeyUpdate
  | .apKeyUpdate => some .rspKeyUpdate
  | .rspKeyUpdate => some .tagAbsTimerUpdate
  | .tagAbsTimerUpdate => some .readChrc
  | .readChrc => some .pastNeeded
  | .pastNeeded => some .saveTag
  | .saveTag => some .updateComplete
  | .updateComplete => some .report
  | .report => none

/-- What a step of the worker gets from outside. -/
structure WorkInput where
  /-- `bt_gatt_write` returns 0 and the tag answers without an error. -/
  succeeded : Bool
  /-- `bt_rand` -/
  random : KeyMaterial
  /-- `esl_c_get_abs_time` -/
  absTime : UInt32
  deriving DecidableEq, Repr

structure Configuration where
  /-- `esl_ap_config_work.conn_idx` -/
  connIdx : UInt8
  /-- `esl_ap_config_work.param.esl_addr` -/
  eslAddr : UInt16
  /-- `esl_ap_config_work.work` is in a queue. -/
  queued : Bool
  worker : Option ConfigStep
  /-- `check_ble_connection` -/
  live : UInt8 → Bool
  /-- `gatt[].esl_device` -/
  eslDevice : UInt8 → EslChrcData
  log : List (UInt8 × ConfigAction)

inductive ConfigEvent
  /-- `bt_esl_configure` -/
  | configure (connIdx : UInt8) (eslAddr : UInt16)
  /-- The worker is taken from its queue. -/
  | begin
  /-- The worker's next step. -/
  | work (input : WorkInput)
  | disconnected (connIdx : UInt8)
  deriving DecidableEq, Repr

namespace Configuration

def init (live : UInt8 → Bool) (eslDevice : UInt8 → EslChrcData) : Configuration where
  connIdx := 0
  eslAddr := 0
  queued := false
  worker := none
  live := live
  eslDevice := eslDevice
  log := []

def act (connIdx : UInt8) (action : ConfigAction) (s : Configuration) : Configuration :=
  { s with log := s.log ++ [(connIdx, action)] }

/-- An update of `gatt[config_work->conn_idx].esl_device`. -/
def setDevice (f : EslChrcData → EslChrcData) (s : Configuration) : Configuration :=
  { s with eslDevice := Function.update s.eslDevice s.connIdx (f (s.eslDevice s.connIdx)) }

/-- `bt_esl_configure` -/
def btEslConfigure (cfg : ConnConfig) (connIdx : UInt8) (eslAddr : UInt16) (s : Configuration) :
    Configuration :=
  if cfg.maxConn ≤ connIdx.toNat then s
  else { s with connIdx := connIdx, eslAddr := eslAddr, queued := true }.act connIdx
    (.configure eslAddr)

/-- `bt_gatt_write` on the connection of the work item, up to the completion of the write. -/
def gattWrite (chrc : ConfigWrite) (succeeded : Bool) (s : Configuration) : Option Configuration :=
  if succeeded = true ∧ s.live s.connIdx = false then none
  else some (s.act s.connIdx (.write chrc succeeded))

/-- `bt_esl_c_write_esl_addr`, after the address has been noted in the record. -/
def btEslCWriteEslAddr (succeeded : Bool) (s : Configuration) : Option Configuration :=
  (s.setDevice fun tag => { tag with eslAddr := s.eslAddr }).gattWrite (.eslAddr s.eslAddr) succeeded

/-- `esl_c_ap_key_update` -/
def eslCApKeyUpdate (apKey : KeyMaterial) (succeeded : Bool) (s : Configuration) :
    Option Configuration :=
  s.gattWrite (.apKey apKey.swapSessionKey) succeeded

/-- The response key of a tag, drawn when there is none. -/
def drawnRspKey (random : KeyMaterial) (tag : EslChrcData) : KeyMaterial :=
  if tag.eslRspKey = KeyMaterial.zero then random else tag.eslRspKey

/-- `esl_c_rsp_key_update` -/
def eslCRspKeyUpdate (random : KeyMaterial) (succeeded : Bool) (s : Configuration) :
    Option Configuration :=
  (s.setDevice fun tag => { tag with eslRspKey := drawnRspKey random tag }).gattWrite
    (.rspKey (drawnRspKey random (s.eslDevice s.connIdx)).swapSessionKey) succeeded

/-- `esl_c_tag_abs_timer_update` -/
def eslCTagAbsTimerUpdate (absTime : UInt32) (succeeded : Bool) (s : Configuration) :
    Option Configuration :=
  s.gattWrite (.absTime absTime) succeeded

/-- One step of `esl_ap_config_work_fn`. -/
def eslApConfigWorkFn (apKey : KeyMaterial) (input : WorkInput) (now : ConfigStep)
    (s : Configuration) : Option Configuration :=
  let s := { s with worker := now.next }
  match now with
  | .check =>
      if s.live s.connIdx then some s
      else some ({ s with worker := none }.act s.connIdx (.refused s.eslAddr))
  | .writeEslAddr => s.btEslCWriteEslAddr input.succeeded
  | .apKeyUpdate => s.eslCApKeyUpdate apKey input.succeeded
  | .rspKeyUpdate => s.eslCRspKeyUpdate input.random input.succeeded
  | .tagAbsTimerUpdate => s.eslCTagAbsTimerUpdate input.absTime input.succeeded
  | .readChrc => some s
  | .pastNeeded => some (s.setDevice fun tag => { tag with pastNeeded := true })
  | .saveTag => some (s.act s.connIdx (.save (s.eslDevice s.connIdx)))
  | .updateComplete => some (s.act s.connIdx (.updateComplete (s.live s.connIdx)))
  | .report => some (s.act s.connIdx (.configured s.eslAddr))

/-- `disconnected` -/
def disconnected (connIdx : UInt8) (s : Configuration) : Configuration :=
  { s with
    live := Function.update s.live connIdx false
    eslDevice := Function.update s.eslDevice connIdx (s.eslDevice connIdx).disconnected }

/-- One event. -/
def step (cfg : ConnConfig) (apKey : KeyMaterial) (s : Configuration) :
    ConfigEvent → Option Configuration
  | .configure connIdx eslAddr => some (s.btEslConfigure cfg connIdx eslAddr)
  | .begin =>
      if s.queued = true ∧ s.worker = none then
        some { s with queued := false, worker := some .check }
      else none
  | .work input => s.worker.bind fun now => s.eslApConfigWorkFn apKey input now
  | .disconnected connIdx => some (s.disconnected connIdx)

end Configuration

end NrfEsl
