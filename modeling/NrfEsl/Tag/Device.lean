import NrfEsl.Ead
import NrfEsl.Tag.Workers

/-!
# The tag with its communication buffers

`TagDevice` adds to `EslTag` what the two command paths share: `ecp_net_buf` with the command
work, the response buffer, the PAwR work with its packet, and the parser of a packet.

**Two producers, one slot.**  A Control Point write (`eslControlWrite`) and the parser
(`dispatchTlv`) both point `ecp_net_buf` at their command, set `src` and submit one work item.
Submitting an item that is already queued does not queue it again, so `ecpWorkPending` is one
bit.

**The parser** runs on its own work queue and yields while the command work is busy, so it is a
state (`ParserFrame`) that other events interleave with.  It reads the packet through
`esl_pawr_sync_work.buf`, which `recv_cb` may point elsewhere meanwhile.

**Ghosts.**  `log` and `ParserFrame.visits` are not in the source: they record which commands
were accepted, executed and answered, and which bytes the parser took for a TLV header.
-/

namespace NrfEsl

/-! ## State -/

/-- A command as it arrived: its path and its bytes. -/
structure Command where
  src : EcpCommandSrc
  bytes : List UInt8
  deriving DecidableEq, Repr

/-- How a run of the handler ended. -/
inductive Answer
  /-- Handed to `bt_gatt_notify_cb`. -/
  | notified (value : List UInt8)
  /-- Put in the response buffer of the packet. -/
  | appended (value : List UInt8)
  /-- The command carried another ESL ID. -/
  | foreign
  /-- A Factory Reset over the Control Point was carried out; it has no response. -/
  | factoryReset
  deriving DecidableEq, Repr

/-- One run of the handler. -/
structure Execution where
  command : Command
  answer : Answer
  deriving DecidableEq, Repr

/-- Ghost record of the command slot. -/
structure CommandLog where
  accepted : List Command := []
  executed : List Execution := []
  /-- How many commands had been executed when the current packet began. -/
  packetStart : ℕ := 0
  deriving DecidableEq, Repr

/-- A notification the stack has accepted and not yet sent. -/
structure Notification where
  value : List UInt8
  func : NotifyFunc
  deriving DecidableEq, Repr

/-- `struct esl_pawr_sync_work_info` -/
structure PawrSyncWork where
  buf : NetBuf
  periodicEventCounter : UInt16
  subevent : UInt8
  pending : Bool

/-- Ghost record of one TLV the parser looked at, by offset in the payload. -/
structure TlvVisit where
  off : ℕ
  len : ℕ
  dispatched : Bool
  deriving DecidableEq, Repr

/-- Local variables of `esl_parse_sync_packet`; `waiting` holds `cp_len` while the parser waits
for the command work. -/
structure ParserFrame where
  payloadLen : ℕ
  cur : ℕ
  tlvSlot : ℤ
  rspSlot : ℤ
  waiting : Option ℕ
  visits : List TlvVisit
  deriving DecidableEq, Repr

/-- The locals at the first TLV of a payload of `payloadLen` bytes. -/
def ParserFrame.first (payloadLen : ℕ) : ParserFrame where
  payloadLen := payloadLen
  cur := 1
  tlvSlot := -1
  rspSlot := -1
  waiting := none
  visits := []

/-- A response handed to `bt_le_per_adv_set_response_data`. -/
structure PawrResponse where
  requestEvent : UInt16
  requestSubevent : UInt8
  responseSlot : ℤ
  data : List UInt8
  deriving DecidableEq, Repr

/-- The tag with its communication buffers. -/
structure TagDevice where
  tag : EslTag
  ecpNetBuf : NetBuf
  ecpWorkSrc : EcpCommandSrc
  ecpWorkPending : Bool
  ecpRspNetBuf : List UInt8
  ecpRspLastTlvLen : ℕ
  notifications : List Notification
  pawrSyncWork : PawrSyncWork
  parser : Option ParserFrame
  paRsp : Mem
  responses : List PawrResponse
  log : CommandLog

namespace TagDevice

variable (cfg : Config) (ead : Ead)

/-- The device after `bt_esl_init`. -/
def boot (p : EslTag.BootParam) : TagDevice where
  tag := EslTag.btEslInit cfg p
  ecpNetBuf := ⟨fun _ => 0, 0⟩
  ecpWorkSrc := .ecp
  ecpWorkPending := false
  ecpRspNetBuf := []
  ecpRspLastTlvLen := 0
  notifications := []
  pawrSyncWork := ⟨⟨fun _ => 0, 0⟩, 0, 0, false⟩
  parser := none
  paRsp := fun _ => 0
  responses := []
  log := {}

/-! ## The command slot -/

/-- `esl_control_write` -/
def eslControlWrite (w : AttWrite) (d : TagDevice) : Except AttError ℕ × TagDevice :=
  if w.buf.len < 2 then (.error .invalidAttributeLen, d)
  else
    (.ok w.buf.len,
      { d with
        ecpNetBuf := w.buf
        ecpWorkSrc := .ecp
        ecpWorkPending := true
        log.accepted := d.log.accepted ++ [⟨.ecp, w.buf.bytes⟩] })

/-- Put a response behind those of the packet.  One that does not fit in 48 bytes replaces the
last TLV by an Error with Capacity Limit. -/
def appendResponse (rspBuf : List UInt8) (lastTlvLen : ℕ) (rsp : List UInt8) : List UInt8 × ℕ :=
  if rspBuf.length + rsp.length > eslSyncPktPayloadMaxLen then
    (rspBuf.take (rspBuf.length - lastTlvLen)
      ++ [EslRespCode.err.toByte, EslRspErrCode.capLimit.toByte], 2)
  else (rspBuf ++ rsp, rsp.length)

/-- Record a run of the handler. -/
def logExecution (x : Execution) (d : TagDevice) : TagDevice :=
  { d with log.executed := d.log.executed ++ [x] }

/-- `ecp_response_handler` -/
def ecpResponseHandler (env : HandlerEnv) (d : TagDevice) : TagDevice :=
  let d := { d with tag := d.tag.prepareResponse cfg }
  let rsp := d.tag.responseBytes cfg env
  let cmd : Command := ⟨d.ecpWorkSrc, d.ecpNetBuf.bytes⟩
  match d.ecpWorkSrc with
  | .pawr =>
      let r := appendResponse d.ecpRspNetBuf d.ecpRspLastTlvLen rsp
      { d with ecpRspNetBuf := r.1, ecpRspLastTlvLen := r.2 }.logExecution ⟨cmd, .appended rsp⟩
  | .ecp =>
      let d := { d with ecpRspNetBuf := rsp }
      if d.tag.ecp.respNeeded then
        let sent : Notification := ⟨rsp, d.tag.ecp.notifyFunc.getD .notifyCb⟩
        { d with notifications :=
            if env.notifyAccepted then d.notifications ++ [sent] else d.notifications
          }.logExecution ⟨cmd, .notified rsp⟩
      else d.logExecution ⟨cmd, .factoryReset⟩

/-- `ecp_command_handler`, run by the system work queue. -/
def ecpCommandHandler (env : HandlerEnv) (d : TagDevice) : TagDevice :=
  let r := d.tag.executeCommand cfg d.ecpNetBuf
  let d := { d with ecpWorkPending := false, tag := r.1 }
  if r.2 then d.ecpResponseHandler cfg env
  else d.logExecution ⟨⟨d.ecpWorkSrc, d.ecpNetBuf.bytes⟩, .foreign⟩

/-- The completion callback of a notification. -/
def notifyComplete (func : NotifyFunc) (d : TagDevice) : TagDevice :=
  match func with
  | .unassociatedCb => { d with tag := { d.tag.btEslUnassociate cfg with ecp.notifyFunc := none } }
  | .notifyCb => d

/-! ## Packets -/

/-- `recv_cb` -/
def recvCb (periodicEventCounter : UInt16) (subevent : UInt8) (buf : NetBuf) (d : TagDevice) :
    TagDevice :=
  if d.tag.assoc.eslState ≠ .synchronized then d
  else
    let t := if cfg.ledIndication then
      (d.tag.ledDworkReset cfg.indicationLedIdx).indicateLed cfg 0x1 50 50 0 1 else d.tag
    let d := { d with tag := t }
    if buf.len = 0 then d
    else { d with pawrSyncWork := ⟨buf, periodicEventCounter, subevent, true⟩ }

/-- The head of `esl_pawr_sync_work_fn`: decrypt the packet into 61 bytes of stack.  The buffer
it leaves in `pawr_work`, and whether decryption succeeded. -/
def decryptPacket (key : KeyMaterial) (stack : Mem) (buf : NetBuf) : Traced (Bool × NetBuf) := do
  let eslPayloadLen := (2 ^ 16 + buf.len - 11) % 2 ^ 16
  Traced.access (.sub buf.len 11)
  Traced.access (.sub buf.len adHeaderLen)
  let enc := buf.pull adHeaderLen
  Traced.access (.write eslEncryptedDataMaxLen 0 (enc.len - 9))
  match ead.decrypt key.sessionKey key.iv enc.bytes with
  | none => pure (false, enc)
  | some decryptedData => pure (true, ⟨stack.write 0 decryptedData, eslPayloadLen⟩)

/-- The check at the start of `esl_parse_sync_packet`: length byte and AD type. -/
def IsEslAd (buf : NetBuf) : Prop :=
  buf.len = (buf.data 0).toNat + 1 ∧ buf.data 1 = btDataEsl

instance (buf : NetBuf) : Decidable (IsEslAd buf) := inferInstanceAs (Decidable (_ ∧ _))

/-- The parser takes up a packet: nothing, or a frame before the first TLV. -/
def beginPacket (d : TagDevice) : TagDevice :=
  let buf := d.pawrSyncWork.buf
  if ¬ IsEslAd buf then d
  else
    let d := { d with pawrSyncWork.buf := buf.pull adHeaderLen }
    if d.pawrSyncWork.buf.data 0 ≠ d.tag.assoc.eslAddr.groupId then d
    else
      { d with
        ecpRspNetBuf := []
        log.packetStart := d.log.executed.length
        parser := some (.first (buf.data 0 - 1).toNat) }

/-- The tail of `esl_pawr_sync_work_fn`: renew the state timeout. -/
def renewTimeout (d : TagDevice) : TagDevice :=
  { d with tag := d.tag.rescheduleStateTimeout .unsynced cfg.unsynchronizedTimeout }

/-- The parser dispatches the TLV at its cursor. -/
def dispatchTlv (f : ParserFrame) (d : TagDevice) : TagDevice :=
  let buf := d.pawrSyncWork.buf
  let cpLen := ecpLen (buf.data f.cur)
  let cmd : NetBuf := ⟨buf.data.shift f.cur, cpLen⟩
  { d with
    ecpNetBuf := cmd
    ecpWorkSrc := .pawr
    ecpWorkPending := true
    log.accepted := d.log.accepted ++ [⟨.pawr, cmd.bytes⟩] }

/-- The TLV at the cursor carries the tag's ESL ID or the broadcast ID. -/
def Addressed (f : ParserFrame) (d : TagDevice) : Prop :=
  d.pawrSyncWork.buf.data (f.cur + 1) = d.tag.assoc.eslAddr.eslId
    ∨ d.pawrSyncWork.buf.data (f.cur + 1) = eslAddrBroadcast

instance (f : ParserFrame) (d : TagDevice) : Decidable (Addressed f d) :=
  inferInstanceAs (Decidable (_ ∨ _))

/-- The locals after the header of the TLV at the cursor has been read. -/
def visitTlv (f : ParserFrame) (d : TagDevice) : ParserFrame :=
  let cpLen := ecpLen (d.pawrSyncWork.buf.data f.cur)
  let tlvSlot := f.tlvSlot + 1
  { f with
    tlvSlot := tlvSlot
    rspSlot := if Addressed f d ∧ d.pawrSyncWork.buf.data (f.cur + 1) ≠ eslAddrBroadcast then
      tlvSlot else f.rspSlot
    visits := f.visits ++ [⟨f.cur, cpLen, decide (Addressed f d)⟩] }

/-- `set_pawr_response` -/
def setPawrResponse (rnd : Randomness) (rspSlot : ℤ) (d : TagDevice) : TagDevice :=
  if rspSlot = -1 then { d with ecpRspNetBuf := [] }
  else
    let r := eslComposeAdData ead rnd d.paRsp d.ecpRspNetBuf d.tag.assoc.eslRspKey
    { d with
      tag.eslRandomizer := eslInitRandomizer rnd
      paRsp := r.1
      responses := d.responses ++ [⟨d.pawrSyncWork.periodicEventCounter, d.pawrSyncWork.subevent,
        rspSlot, r.1.read 0 r.2.toNat⟩]
      ecpRspNetBuf := [] }

/-- The parser leaves its loop. -/
def endPacket (rnd : Randomness) (f : ParserFrame) (d : TagDevice) : TagDevice :=
  { (d.setPawrResponse ead rnd f.rspSlot).renewTimeout cfg with parser := none }

/-! ## What the buffers' handlers do to the tag -/

section Frame

variable {cfg ead} (d : TagDevice)

@[simp] lemma tag_logExecution (x) : (d.logExecution x).tag = d.tag := rfl

@[simp] lemma tag_eslControlWrite (w : AttWrite) : (d.eslControlWrite w).2.tag = d.tag := by
  unfold eslControlWrite
  split <;> rfl

@[simp] lemma tag_dispatchTlv (f : ParserFrame) : (d.dispatchTlv f).tag = d.tag := rfl

@[simp] lemma tag_ecpResponseHandler (env : HandlerEnv) :
    (d.ecpResponseHandler cfg env).tag = d.tag.prepareResponse cfg := by
  simp only [ecpResponseHandler]
  split
  · rfl
  · split <;> rfl

/-- What building the answer leaves alone, a run of the handler changes as the command does. -/
lemma ecpCommandHandler_frame {α : Type*} (f : EslTag → α)
    (hf : ∀ t, f (t.prepareResponse cfg) = f t) (env : HandlerEnv) :
    f (d.ecpCommandHandler cfg env).tag = f (d.tag.executeCommand cfg d.ecpNetBuf).1 := by
  simp only [ecpCommandHandler]
  split
  · rw [tag_ecpResponseHandler, hf]
  · rfl

@[simp] lemma tag_beginPacket : d.beginPacket.tag = d.tag := by
  simp only [beginPacket]
  split
  · rfl
  · split <;> rfl

@[simp] lemma assoc_recvCb (counter subevent buf) :
    (d.recvCb cfg counter subevent buf).tag.assoc = d.tag.assoc := by
  simp only [recvCb]
  split
  · rfl
  · split <;> split <;> rfl

end Frame

end TagDevice

end NrfEsl
