import NrfEsl.Ap.Connections

/-!
# The auto-connect thread of the access point

The thread walks the scanned tags and connects to each that is not connected, one attempt at a time: it
sets `ESL_C_CONNECTING` before it calls `esl_c_connect` and then waits for `sem_auto_config`.  The bit is
cleared by the thread when `esl_c_connect` does not return 0, and by the connection callbacks.

The shell and a directed advertisement make attempts of their own, which leave the bit alone.  Which tag
the thread comes to is left open, and so is what the stack answers.
-/

namespace NrfEsl

/-- Where the thread stands. -/
inductive AutoThread
  /-- Outside the walk, asleep or about to look at the mode. -/
  | outside
  | walking
  /-- In `esl_c_connect`, before the stack is asked. -/
  | connecting (addr : BtAddrLe)
  /-- `esl_c_connect` returns. -/
  | returned (ret : ℤ)
  /-- In `k_sem_take`. -/
  | waiting
  deriving DecidableEq, Repr

/-- A connection the stack is creating. -/
structure ConnAttempt where
  connIdx : UInt8
  /-- Started by the auto-connect thread. -/
  auto : Bool
  deriving DecidableEq, Repr

structure AutoConnect where
  thread : AutoThread
  /-- `esl_c_auto_ap_mode` -/
  autoApMode : Bool
  /-- `ESL_C_CONNECTING` -/
  connecting : Bool
  /-- `ESL_C_SCANNING` -/
  scanning : Bool
  /-- `ESL_C_SCAN_PENDING` -/
  scanPending : Bool
  scanOneShot : Bool
  /-- `sem_auto_config` can be taken. -/
  semAutoConfig : Bool
  /-- `check_ble_connection(conn[])` -/
  conn : UInt8 → Bool
  pending : List ConnAttempt

inductive AutoEvent
  /-- The thread finds the mode on and the list not empty. -/
  | enter
  /-- The walk is at its end. -/
  | leave
  /-- The walk comes to a tag that is not connected. -/
  | pick (addr : BtAddrLe)
  /-- `esl_c_connect` asks the stack, which returns `-err`. -/
  | create (err : ℕ)
  /-- The thread looks at what `esl_c_connect` returned. -/
  | ret
  | semTaken
  | semTimeout
  /-- `connected`; `started` is the answer of `bt_scan_start`. -/
  | connected (attempt : ConnAttempt) (connErr started : Bool)
  | disconnected (connIdx : UInt8) (started : Bool)
  /-- `esl_c_connect` from the shell. -/
  | shellConnect (eslAddr : UInt16) (err : ℕ)
  /-- `scan_filter_no_match` -/
  | directAdv (err : ℕ)
  | scan (onoff oneshot started : Bool)
  /-- `esl_c_auto_ap_toggle` -/
  | toggle (onoff started : Bool)
  deriving DecidableEq, Repr

/-- `-ENOMEM` -/
def enomem : ℤ := -12

/-- `ESL_ADDR_BROADCAST`, as the 16-bit address that the thread passes. -/
def connectBroadcast : UInt16 := eslAddrBroadcast.toUInt16

namespace AutoConnect

/-- The thread starts, with the connections there are. -/
def init (conn : UInt8 → Bool) : AutoConnect where
  thread := .outside
  autoApMode := true
  connecting := false
  scanning := false
  scanPending := false
  scanOneShot := false
  semAutoConfig := true
  conn := conn
  pending := []

/-- `esl_c_scan` -/
def eslCScan (onoff oneshot started : Bool) (s : AutoConnect) : AutoConnect :=
  if onoff then
    -- "Connecting, can't scan"
    if s.connecting then s
    else if started then { s with scanning := true, scanOneShot := oneshot }
    else s
  else { s with scanning := false, scanOneShot := oneshot }

/-- A pending scan is started again at the end of a connection callback. -/
def resumeScan (started : Bool) (s : AutoConnect) : AutoConnect :=
  if s.scanPending then
    { s with scanPending := false }.eslCScan true s.scanOneShot started
  else s

/-- `connected` -/
def onConnected (attempt : ConnAttempt) (connErr started : Bool) (s : AutoConnect) : AutoConnect :=
  let s := { s with pending := s.pending.erase attempt, connecting := false }
  if connErr then { s with semAutoConfig := true }.resumeScan started
  else { s with conn := Function.update s.conn attempt.connIdx true }.resumeScan started

/-- `disconnected` -/
def onDisconnected (connIdx : UInt8) (started : Bool) (s : AutoConnect) : AutoConnect :=
  { s with
    connecting := false
    semAutoConfig := true
    conn := Function.update s.conn connIdx false }.resumeScan started

variable (cfg : ConnConfig)

/-- `esl_c_get_free_conn_idx` -/
def eslCGetFreeConnIdx (s : AutoConnect) : Option UInt8 := cfg.connIdxs.find? fun idx => !s.conn idx

/-- A running scan makes way for a connection. -/
def pauseScan (s : AutoConnect) : AutoConnect :=
  if s.scanning then
    { s with scanPending := s.scanPending || !s.scanOneShot }.eslCScan false s.scanOneShot true
  else s

/-- `esl_c_connect`, for the thread or for the shell. -/
def eslCConnect (auto : Bool) (eslAddr : UInt16) (err : ℕ) (s : AutoConnect) : ℤ × AutoConnect :=
  match s.eslCGetFreeConnIdx cfg with
  | none => (enomem, s)
  | some connIdx =>
      let s := s.pauseScan
      if err = 0 then (connIdx.toNat, { s with pending := s.pending ++ [⟨connIdx, auto⟩] })
      else if lowByte eslAddr = eslAddrBroadcast then (-err, { s with semAutoConfig := true })
      else (-err, s)

/-- `scan_filter_no_match` on a directed advertisement; without a free index the stack has no
connection to give. -/
def scanFilterNoMatch (err : ℕ) (s : AutoConnect) : AutoConnect :=
  let s := s.eslCScan false false true
  match s.eslCGetFreeConnIdx cfg with
  | none => s
  | some connIdx =>
      if err = 0 then { s with pending := s.pending ++ [⟨connIdx, false⟩] } else s

/-- One event. -/
def step (s : AutoConnect) : AutoEvent → Option AutoConnect
  | .enter =>
      if s.thread = .outside ∧ s.autoApMode = true then some { s with thread := .walking } else none
  | .leave => if s.thread = .walking then some { s with thread := .outside } else none
  | .pick addr =>
      if s.thread = .walking then
        if s.connecting then some { s with thread := .waiting }
        else some { s with connecting := true, thread := .connecting addr }
      else none
  | .create err =>
      match s.thread with
      | .connecting _ =>
          let answer := s.eslCConnect cfg true connectBroadcast err
          some { answer.2 with thread := .returned answer.1 }
      | _ => none
  | .ret =>
      match s.thread with
      | .returned ret =>
          if ret = 0 then some { s with thread := .waiting }
          else some { s with thread := .waiting, connecting := false }
      | _ => none
  | .semTaken =>
      if s.thread = .waiting ∧ s.semAutoConfig = true then
        some { s with thread := .walking, semAutoConfig := false }
      else none
  | .semTimeout => if s.thread = .waiting then some { s with thread := .walking } else none
  | .connected attempt connErr started =>
      if attempt ∈ s.pending then some (s.onConnected attempt connErr started) else none
  | .disconnected connIdx started =>
      if s.conn connIdx = true then some (s.onDisconnected connIdx started) else none
  | .shellConnect eslAddr err => some (s.eslCConnect cfg false eslAddr err).2
  | .directAdv err => some (s.scanFilterNoMatch cfg err)
  | .scan onoff oneshot started => some (s.eslCScan onoff oneshot started)
  | .toggle onoff started => some ({ s with autoApMode := onoff }.eslCScan onoff false started)

end AutoConnect

end NrfEsl
