import Mathlib.Logic.Function.Basic
import NrfEsl.Common

/-!
# ECP commands, their answers and the removal of bonds

`ecp_rsp_handler` learns what a Basic State response answers from `ecp_write_params.data`, which for
every connection points to the one `ecp_buf`; whose bond to remove it learns from the one
`pending_unassociated_tag`.

Calls come from the shell and from work queues, notifications from the stack, so a call is cut where
it writes something the handler reads: `bt_c_esl_unassociate` sets `pending_unassociated_tag`,
`bt_esl_c_ecp_command_send` fills `ecp_buf`, and `bt_gatt_write` sends what is in `ecp_buf` then.

**Ghost.**  `outstanding`, `answered` and `removals` are not in the source: the commands written to
each connection and not answered, the tags that have answered OP_UNASSOCIATE with Basic State, and the
bonds removed with what made the access point remove them.
-/

namespace NrfEsl

/-- `CONFIG_BT_MAX_CONN`; connection indexes are bytes. -/
structure ConnConfig where
  maxConn : ℕ
  maxConn_mem : 1 ≤ maxConn ∧ maxConn ≤ 255

/-- A build with two connections. -/
def ConnConfig.two : ConnConfig where
  maxConn := 2
  maxConn_mem := by decide

/-- Who called `bt_c_esl_post_unassociate`: the handler of a Basic State notification from `conn`,
the answer to `answers` if it is one, or `bt_esl_c_factory_reset`. -/
inductive RemovalCause
  | basicState (conn : UInt8) (answers : Option UInt8)
  | factoryReset
  deriving DecidableEq, Repr

/-- A bond removed. -/
structure Removal where
  conn : UInt8
  cause : RemovalCause
  deriving DecidableEq, Repr

/-- The access point, as far as ECP commands and bonds go. -/
structure EcpClient where
  /-- `ecp_buf[0]` -/
  ecpBuf0 : UInt8
  /-- `pending_unassociated_tag`, an `int16_t` that is -1 when there is none. -/
  pendingUnassociatedTag : UInt16
  currentEslCount : ℕ
  connected : UInt8 → Bool
  /-- `ecp_write_params.data` points to `ecp_buf`. -/
  dataSet : UInt8 → Bool
  /-- Calls of `bt_c_esl_unassociate` that have not sent their command. -/
  unassociating : List UInt8
  /-- Calls of `bt_esl_c_ecp_command_send` that have filled `ecp_buf` and not written it. -/
  filled : List UInt8
  outstanding : UInt8 → List UInt8
  answered : List UInt8
  removals : List Removal

namespace EcpClient

/-- After `bt_esl_client_init`, with some connections up. -/
def init (connected : UInt8 → Bool) : EcpClient where
  ecpBuf0 := 0
  pendingUnassociatedTag := 0xFFFF
  currentEslCount := 0
  connected := connected
  dataSet := fun _ => false
  unassociating := []
  filled := []
  outstanding := fun _ => []
  answered := []
  removals := []

variable (cfg : ConnConfig)

/-- `bt_c_esl_post_unassociate` -/
def postUnassociate (connIdx : UInt8) (cause : RemovalCause) (s : EcpClient) : EcpClient :=
  if cfg.maxConn ≤ connIdx.toNat then s
  else { s with
    pendingUnassociatedTag := 0xFFFF
    currentEslCount := s.currentEslCount - 1
    removals := s.removals ++ [⟨connIdx, cause⟩] }

/-- `bt_esl_c_ecp_command_send` up to the write. -/
def fillEcpBuf (connIdx : UInt8) (opCode : EslOpCode) (s : EcpClient) : EcpClient :=
  if cfg.maxConn ≤ connIdx.toNat ∨ s.connected connIdx = false then s
  else { s with
    ecpBuf0 := opCode.toByte
    dataSet := Function.update s.dataSet connIdx true
    filled := connIdx :: s.filled }

/-- `bt_gatt_write`, or `bt_gatt_write_without_response`, of `ecp_buf`. -/
def writeEcpBuf (connIdx : UInt8) (queued : Bool) (s : EcpClient) : EcpClient :=
  { s with
    filled := s.filled.erase connIdx
    outstanding := if queued then
        Function.update s.outstanding connIdx (s.outstanding connIdx ++ [s.ecpBuf0])
      else s.outstanding }

/-- `ecp_rsp_handler`, for the response code `rsp`. -/
def ecpRspHandler (connIdx rsp : UInt8) (answers : Option UInt8) (s : EcpClient) : EcpClient :=
  if rsp = EslRespCode.basicState.toByte then
    if s.ecpBuf0 = EslOpCode.unassociate.toByte then
      s.postUnassociate cfg (lowByte s.pendingUnassociatedTag) (.basicState connIdx answers)
    else s
  else s

/-- The tag's answer leaves the commands it has not answered, and is noted if it is a Basic State
answer to OP_UNASSOCIATE. -/
def noteAnswer (connIdx rsp opCode : UInt8) (s : EcpClient) : EcpClient :=
  { s with
    outstanding :=
      Function.update s.outstanding connIdx ((s.outstanding connIdx).erase opCode)
    answered :=
      if rsp = EslRespCode.basicState.toByte ∧ opCode = EslOpCode.unassociate.toByte then
        connIdx :: s.answered
      else s.answered }

end EcpClient

/-- What happens between the access point and its tags. -/
inductive EcpEvent
  /-- `bt_c_esl_unassociate`, up to the call that sends the command. -/
  | unassociate (connIdx : UInt8)
  /-- `bt_esl_c_ecp_command_send`, up to the write. -/
  | command (connIdx : UInt8) (opCode : EslOpCode)
  /-- The write; `queued` says whether the stack took it. -/
  | write (connIdx : UInt8) (queued : Bool)
  /-- A notification with response code `rsp`; `answers` is the command it answers, if any. -/
  | notify (connIdx rsp : UInt8) (answers : Option UInt8)
  /-- What `bt_esl_c_factory_reset` does after it has sent its command. -/
  | factoryReset (connIdx : UInt8)
  deriving DecidableEq, Repr

/-- One event.  A notification answers a command the tag has received; no other is looked at before
a first command has set `ecp_write_params.data`. -/
def EcpClient.step (cfg : ConnConfig) (s : EcpClient) : EcpEvent → Option EcpClient
  | .unassociate connIdx => some { s with
      pendingUnassociatedTag := connIdx.toUInt16
      unassociating := connIdx :: s.unassociating }
  | .command connIdx opCode =>
      if opCode = .unassociate then
        if connIdx ∈ s.unassociating then
          some ({ s with unassociating := s.unassociating.erase connIdx }.fillEcpBuf cfg connIdx opCode)
        else none
      else some (s.fillEcpBuf cfg connIdx opCode)
  | .write connIdx queued =>
      if connIdx ∈ s.filled then some (s.writeEcpBuf connIdx queued) else none
  | .notify connIdx rsp none =>
      if s.dataSet connIdx then some (s.ecpRspHandler cfg connIdx rsp none) else none
  | .notify connIdx rsp (some opCode) =>
      if opCode ∈ s.outstanding connIdx then
        some ((s.noteAnswer connIdx rsp opCode).ecpRspHandler cfg connIdx rsp (some opCode))
      else none
  | .factoryReset connIdx => some (s.postUnassociate cfg connIdx .factoryReset)

end NrfEsl
