import NrfEsl.Ap.Unassociate

/-!
# Waiting for the completion of a write

Five functions of the access point write a characteristic and wait: each clears `write_chrc`, calls
`bt_gatt_write`, and polls the flag until it is set.  The one flag is set by the completion of any
write and by the loss of any connection.  They run on the shell's thread and on work queues, so a call
is cut before `bt_gatt_write` and where it waits.

A request that `bt_gatt_write` does not take has no completion.

**Ghost.**  Calls are numbered; `ended` are those whose write was completed or whose connection was
lost, and `left` those that have left their wait.
-/

namespace NrfEsl

/-- The functions that wait for `write_chrc`. -/
inductive WriteFunction
  | btEslCWriteEslAddr | btEslCEcpCommandSend | eslCApKeyUpdate | eslCRspKeyUpdate
  | eslCTagAbsTimerUpdate
  deriving DecidableEq, Repr

/-- A call of one of them that has cleared the flag. -/
structure WriteCall where
  num : ℕ
  function : WriteFunction
  connIdx : UInt8
  deriving DecidableEq, Repr

structure WriteFlag where
  writeChrc : Bool
  live : UInt8 → Bool
  /-- Before `bt_gatt_write`. -/
  cleared : List WriteCall
  /-- In `WAIT_FOR_FLAG`. -/
  waiting : List WriteCall
  /-- The stack has the request of the call, and has not called `esl_c_write_attr` for it. -/
  outstanding : List WriteCall
  calls : ℕ
  ended : List WriteCall
  left : List WriteCall

inductive WriteEvent
  | call (function : WriteFunction) (connIdx : UInt8)
  /-- `bt_gatt_write`, and whether it returns 0. -/
  | gattWrite (call : WriteCall) (queued : Bool)
  /-- `esl_c_write_attr` -/
  | writeAttr (call : WriteCall)
  /-- A poll that finds the flag set. -/
  | leave (call : WriteCall)
  | connected (connIdx : UInt8)
  | disconnected (connIdx : UInt8)
  deriving DecidableEq, Repr

namespace WriteFlag

def init (live : UInt8 → Bool) : WriteFlag where
  writeChrc := false
  live := live
  cleared := []
  waiting := []
  outstanding := []
  calls := 0
  ended := []
  left := []

/-- The call returns at once: the index is out of range, or there is no connection to send a command
on. -/
def returns (cfg : ConnConfig) (function : WriteFunction) (connIdx : UInt8) (s : WriteFlag) : Prop :=
  cfg.maxConn ≤ connIdx.toNat ∨ function = .btEslCEcpCommandSend ∧ s.live connIdx = false

instance (cfg : ConnConfig) (function : WriteFunction) (connIdx : UInt8) (s : WriteFlag) :
    Decidable (s.returns cfg function connIdx) :=
  inferInstanceAs (Decidable
    (cfg.maxConn ≤ connIdx.toNat ∨ function = .btEslCEcpCommandSend ∧ s.live connIdx = false))

/-- A call, up to `UNSET_FLAG`. -/
def unsetFlag (cfg : ConnConfig) (function : WriteFunction) (connIdx : UInt8) (s : WriteFlag) :
    WriteFlag :=
  if s.returns cfg function connIdx then s
  else { s with
    writeChrc := false
    cleared := ⟨s.calls, function, connIdx⟩ :: s.cleared
    calls := s.calls + 1 }

/-- `bt_gatt_write` in a call, which then waits. -/
def gattWrite (call : WriteCall) (queued : Bool) (s : WriteFlag) : WriteFlag :=
  { s with
    cleared := s.cleared.erase call
    waiting := call :: s.waiting
    outstanding := if queued then call :: s.outstanding else s.outstanding }

/-- `esl_c_write_attr`, for the write of a call. -/
def eslCWriteAttr (call : WriteCall) (s : WriteFlag) : WriteFlag :=
  { s with
    writeChrc := true
    outstanding := s.outstanding.erase call
    ended := call :: s.ended }

/-- The calls on a connection that are under way. -/
def onConn (connIdx : UInt8) (s : WriteFlag) : List WriteCall :=
  (s.cleared ++ s.waiting).filter fun call => call.connIdx = connIdx

/-- `disconnected`, which releases the flag. -/
def disconnected (connIdx : UInt8) (s : WriteFlag) : WriteFlag :=
  { s with
    writeChrc := true
    live := Function.update s.live connIdx false
    ended := s.onConn connIdx ++ s.ended }

/-- One event. -/
def step (cfg : ConnConfig) (s : WriteFlag) : WriteEvent → Option WriteFlag
  | .call function connIdx => some (s.unsetFlag cfg function connIdx)
  | .gattWrite call queued =>
      if call ∈ s.cleared ∧ (queued = true → s.live call.connIdx = true) then
        some (s.gattWrite call queued)
      else none
  | .writeAttr call => if call ∈ s.outstanding then some (s.eslCWriteAttr call) else none
  | .leave call =>
      if call ∈ s.waiting ∧ s.writeChrc = true then
        some { s with waiting := s.waiting.erase call, left := call :: s.left }
      else none
  | .connected connIdx => some { s with live := Function.update s.live connIdx true }
  | .disconnected connIdx =>
      if s.live connIdx = true then some (s.disconnected connIdx) else none

end WriteFlag

end NrfEsl
