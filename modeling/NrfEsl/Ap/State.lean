import Mathlib.Logic.Function.Basic
import NrfEsl.Ead

/-!
# The access point and its sync buffers

`sync_buf` holds one packet for each group together with the responses of that group's tags.
Four parties write it: callers of `esl_c_push_sync_buf`, the work that feeds the controller
(`pawr_work_q`), the work that takes up responses (the system work queue) and the ping worker of
the sample.  There is no lock; `status` alone says whose turn it is.

A call that can be preempted is therefore a state: `Push` for `esl_c_push_sync_buf`,
`PushToController` for `esl_c_push_sync_to_controller`, `Ping` for `esl_ap_ping_work_fn`.  Each is
cut where it writes something another party reads.

**Ghost.**  `Ap.owed` is not in the source: the payloads of each group whose push has returned 0
and which the controller has not accepted yet.
-/

namespace NrfEsl

/-- The Kconfig symbols that size the buffers, with their ranges. -/
structure ApConfig where
  maxGroup : ℕ
  numResponseSlots : ℕ
  maxResponseSlotBuffer : ℕ
  maxGroup_mem : 1 ≤ maxGroup ∧ maxGroup ≤ 128
  numResponseSlots_mem : 1 ≤ numResponseSlots ∧ numResponseSlots ≤ 128
  maxResponseSlotBuffer_mem : 1 ≤ maxResponseSlotBuffer ∧ maxResponseSlotBuffer ≤ 23

/-- `Kconfig.esl_client.defaults` -/
def ApConfig.default : ApConfig where
  maxGroup := 128
  numResponseSlots := 8
  maxResponseSlotBuffer := 8
  maxGroup_mem := by decide
  numResponseSlots_mem := by decide
  maxResponseSlotBuffer_mem := by decide

/-- `enum AP_SYNC_BUFFER_STATUS` -/
inductive SyncBufferStatus
  | empty | readyToPush | pushed | respFull
  deriving DecidableEq, Repr

/-- `struct bt_esl_rsp_buffer` -/
structure RspBuffer where
  rspKey : KeyMaterial
  data : Mem
  rspLen : UInt8
  rspSlot : UInt8
  status : SyncBufferStatus

/-- `struct bt_esl_sync_buffer` -/
structure SyncBuffer where
  data : Mem
  dataLen : UInt8
  status : SyncBufferStatus
  rspBuffer : ℕ → RspBuffer

/-- `struct bt_le_per_adv_data_request` -/
structure DataRequest where
  start : UInt8
  count : UInt8
  deriving DecidableEq, Repr

/-- What is used of `struct bt_le_per_adv_response_info`. -/
structure ResponseInfo where
  subevent : UInt8
  responseSlot : UInt8
  deriving DecidableEq, Repr

/-- How far a call of `esl_c_push_sync_buf` has come. -/
inductive PushStage
  /-- The status allows a push. -/
  | checked
  /-- The status is set. -/
  | claimed
  /-- `esl_compose_ad_data` has returned this length. -/
  | composed (outLen : UInt8)
  deriving DecidableEq, Repr

/-- A call of `esl_c_push_sync_buf` that has not returned. -/
structure Push where
  data : List UInt8
  groupId : ℕ
  stage : PushStage
  deriving DecidableEq, Repr

/-- A call of `esl_c_push_sync_to_controller`: its arguments, its loop counter and
`subevent_data_params` with the buffers they point to. -/
structure PushToController where
  request : DataRequest
  i : ℕ
  params : List (ℕ × List UInt8)
  deriving DecidableEq, Repr

/-- What the ping worker does next with a group. -/
inductive PingStage
  | clear
  | compose
  | ready (outLen : UInt8)
  deriving DecidableEq, Repr

/-- A pass of the ping worker over the groups. -/
structure Ping where
  idx : ℕ
  stage : PingStage
  deriving DecidableEq, Repr

/-- The access point, as far as its sync buffers go. -/
structure Ap where
  syncBuf : ℕ → SyncBuffer
  eslApKey : KeyMaterial
  fillBufInfo : DataRequest
  fillBufPending : Bool
  fillBuf : Option PushToController
  respInfo : ResponseInfo
  respPending : Bool
  /-- The pushes in progress, by calling thread. -/
  callers : ℕ → Option Push
  ping : Option Ping
  owed : ℕ → List (List UInt8)

/-! ## Response slots -/

namespace RspBuffer

/-- What the slot holds. -/
def bytes (r : RspBuffer) : List UInt8 := r.data.read 0 r.rspLen.toNat

/-- The bytes in a response slot pass for encrypted data: length byte and AD type. -/
def LegitEad (r : RspBuffer) : Prop :=
  r.rspLen.toNat = (r.data 0).toNat + 1 ∧ r.data 1 = btDataEncryptedAdData

instance (r : RspBuffer) : Decidable r.LegitEad := inferInstanceAs (Decidable (_ ∧ _))

/-- The decryption of a response in place, over a stack buffer of 61 bytes. -/
def decrypt (ead : Ead) (stack : Mem) (r : RspBuffer) : Traced RspBuffer := do
  let buf : NetBuf := ⟨r.data, r.rspLen.toNat⟩
  let r := { r with status := SyncBufferStatus.respFull }
  Traced.access (.sub buf.len 11)
  let eslPayloadLen := (2 ^ 32 + buf.len - 11) % 2 ^ 32
  Traced.access (.sub buf.len adHeaderLen)
  let enc := buf.pull adHeaderLen
  Traced.access (.write eslEncryptedDataMaxLen 0 (enc.len - 9))
  match ead.decrypt r.rspKey.sessionKey r.rspKey.iv enc.bytes with
  | none => pure r
  | some decryptedData =>
      Traced.access (.write eslEncryptedDataMaxLen 0 eslPayloadLen)
      pure { r with
        data := r.data.write 0 ((stack.write 0 decryptedData).read 0 eslPayloadLen)
        rspLen := UInt8.ofNat eslPayloadLen }

/-- What `esl_ap_resp_fill_buf_work_fn` does with the slot. -/
def takeUp (ead : Ead) (stack : Mem) (responseSlot : UInt8) (r : RspBuffer) : Traced RspBuffer :=
  let r := { r with rspSlot := responseSlot }
  if r.LegitEad then r.decrypt ead stack else pure r

end RspBuffer

/-! ## Sync buffers -/

namespace SyncBuffer

/-- `memset` to zero. -/
def zero : SyncBuffer where
  data := fun _ => 0
  dataLen := 0
  status := .empty
  rspBuffer := fun _ => ⟨.zero, fun _ => 0, 0, 0, .empty⟩

/-- The bytes the controller would get. -/
def packet (b : SyncBuffer) : List UInt8 := b.data.read 0 b.dataLen.toNat

/-- `esl_compose_ad_data` into the buffer of a group; its result is assigned later. -/
def compose (ead : Ead) (rnd : Randomness) (key : KeyMaterial) (payload : List UInt8)
    (b : SyncBuffer) : SyncBuffer :=
  { b with data := (eslComposeAdData ead rnd b.data payload key).1 }

/-- The loop of `esl_c_dump_resp_buf`, and the status it leaves. -/
def dumpRespBuf (cfg : ApConfig) (b : SyncBuffer) : SyncBuffer :=
  { b with
    status := .empty
    rspBuffer := fun idx =>
      if idx < cfg.maxResponseSlotBuffer ∧ (b.rspBuffer idx).rspLen ≠ 0 then
        { b.rspBuffer idx with rspLen := 0, status := .empty }
      else b.rspBuffer idx }

/-- The copy of `pawr_response` into a response slot. -/
def storeResponse (cfg : ApConfig) (responseSlot : UInt8) (buf : NetBuf) (b : SyncBuffer) :
    Traced SyncBuffer := do
  Traced.access (.index cfg.maxResponseSlotBuffer responseSlot.toNat)
  Traced.access (.write eslEncryptedDataMaxLen 0 buf.len)
  let r := b.rspBuffer responseSlot.toNat
  let r := { r with data := r.data.write 0 buf.bytes, rspLen := UInt8.ofNat buf.len }
  pure { b with rspBuffer := Function.update b.rspBuffer responseSlot.toNat r }

/-- `esl_ap_resp_fill_buf_work_fn` on the buffer of a group.  The group counts as answered before
the response has been looked at. -/
def respFillBufWorkFn (cfg : ApConfig) (ead : Ead) (stack : Mem) (responseSlot : UInt8)
    (b : SyncBuffer) : Traced SyncBuffer := do
  let b := { b with status := SyncBufferStatus.respFull }
  Traced.access (.index cfg.maxResponseSlotBuffer responseSlot.toNat)
  let r ← (b.rspBuffer responseSlot.toNat).takeUp ead stack responseSlot
  pure { b with rspBuffer := Function.update b.rspBuffer responseSlot.toNat r }

section Frame

variable (b : SyncBuffer)

@[simp] lemma dataLen_compose (ead rnd key p) : (b.compose ead rnd key p).dataLen = b.dataLen := rfl

@[simp] lemma status_compose (ead rnd key p) : (b.compose ead rnd key p).status = b.status := rfl

@[simp] lemma packet_dumpRespBuf (cfg : ApConfig) : (b.dumpRespBuf cfg).packet = b.packet := rfl

/-- Storing a response leaves the packet of the group and its status alone. -/
@[simp] lemma packet_storeResponse (cfg : ApConfig) (slot : UInt8) (buf : NetBuf) :
    (b.storeResponse cfg slot buf).val.packet = b.packet := rfl

@[simp] lemma status_storeResponse (cfg : ApConfig) (slot : UInt8) (buf : NetBuf) :
    (b.storeResponse cfg slot buf).val.status = b.status := rfl

@[simp] lemma packet_respFillBufWorkFn (cfg : ApConfig) (ead : Ead) (stack : Mem) (slot : UInt8) :
    (b.respFillBufWorkFn cfg ead stack slot).val.packet = b.packet := rfl

end Frame

end SyncBuffer

namespace Ap

variable (cfg : ApConfig)

/-- `esl_c_sync_buffer_init`, and nothing going on yet. -/
def init (key : KeyMaterial) : Ap where
  syncBuf := fun _ => .zero
  eslApKey := key
  fillBufInfo := ⟨0, 0⟩
  fillBufPending := false
  fillBuf := none
  respInfo := ⟨0, 0⟩
  respPending := false
  callers := fun _ => none
  ping := none
  owed := fun _ => []

/-- Change the sync buffer of one group. -/
def updateGroup (g : ℕ) (f : SyncBuffer → SyncBuffer) (s : Ap) : Ap :=
  { s with syncBuf := Function.update s.syncBuf g (f (s.syncBuf g)) }

/-- Record where a call of `esl_c_push_sync_buf` stands. -/
def setCaller (c : ℕ) (p : Option Push) (s : Ap) : Ap :=
  { s with callers := Function.update s.callers c p }

/-- `current_subevent` of the loop. -/
def currentSubevent (w : PushToController) : ℕ := (w.request.start.toNat + w.i) % cfg.maxGroup

section Frame

variable (s : Ap) (g : ℕ) (f : SyncBuffer → SyncBuffer) (c : ℕ) (p : Option Push)

@[simp] lemma syncBuf_updateGroup_same : (s.updateGroup g f).syncBuf g = f (s.syncBuf g) := by
  simp [updateGroup]

lemma syncBuf_updateGroup_ne {g' : ℕ} (h : g' ≠ g) :
    (s.updateGroup g f).syncBuf g' = s.syncBuf g' := by
  simp [updateGroup, h]

@[simp] lemma owed_updateGroup : (s.updateGroup g f).owed = s.owed := rfl
@[simp] lemma callers_updateGroup : (s.updateGroup g f).callers = s.callers := rfl
@[simp] lemma fillBuf_updateGroup : (s.updateGroup g f).fillBuf = s.fillBuf := rfl
@[simp] lemma ping_updateGroup : (s.updateGroup g f).ping = s.ping := rfl
@[simp] lemma eslApKey_updateGroup : (s.updateGroup g f).eslApKey = s.eslApKey := rfl

@[simp] lemma syncBuf_setCaller : (s.setCaller c p).syncBuf = s.syncBuf := rfl
@[simp] lemma owed_setCaller : (s.setCaller c p).owed = s.owed := rfl
@[simp] lemma fillBuf_setCaller : (s.setCaller c p).fillBuf = s.fillBuf := rfl
@[simp] lemma eslApKey_setCaller : (s.setCaller c p).eslApKey = s.eslApKey := rfl

@[simp] lemma callers_setCaller_same : (s.setCaller c p).callers c = p := by simp [setCaller]

lemma callers_setCaller_ne {c' : ℕ} (h : c' ≠ c) :
    (s.setCaller c p).callers c' = s.callers c' := by
  simp [setCaller, h]

end Frame

end Ap

/-! ## Key updates -/

/-- `esl_c_ap_key_update`: the bytes written to the AP Sync Key characteristic of a tag. -/
def eslCApKeyUpdate (eslApKey : KeyMaterial) : List UInt8 := eslApKey.swapSessionKey.keyV

/-- `esl_c_rsp_key_update`: the response key that the access point keeps for the tag, drawn at
random (`rand`) if it had none, and the bytes written to the tag. -/
def eslCRspKeyUpdate (rand eslRspKey : KeyMaterial) : KeyMaterial × List UInt8 :=
  let k := if eslRspKey = .zero then rand else eslRspKey
  (k, k.swapSessionKey.keyV)

end NrfEsl
