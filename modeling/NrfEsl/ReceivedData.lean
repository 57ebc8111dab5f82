import NrfEsl.Ap.Step
import NrfEsl.Tag.Step

/-!
# Received data and the buffers it goes to

Whatever the controller delivers, a tag hands to `bt_ead_decrypt` with 61 bytes of stack as the
destination, and the access point copies to a response slot of 61 bytes and decrypts from there.
The computations of both sides record their copies, indices and length subtractions (`Traced`);
here is **exactly when all of them are safe**.

The tag checks nothing but emptiness, so a packet must have 11 to 72 bytes.  The access point
bounds neither the slot nor the length before it copies, and its header check, made afterwards,
gives no lower bound on the length.
-/

namespace NrfEsl

/-! ## The tag -/

namespace TagDevice

variable (cfg : Config) (ead : Ead)

/-- `recv_cb` on a packet and, if that submits it, the decryption in `esl_pawr_sync_work_fn`. -/
def receivePacket (stack : Mem) (counter : UInt16) (subevent : UInt8) (buf : NetBuf)
    (d : TagDevice) : Traced (Bool × NetBuf) :=
  let d := { d with pawrSyncWork.pending := false }.recvCb cfg counter subevent buf
  if d.pawrSyncWork.pending then
    decryptPacket ead d.tag.assoc.eslApKey stack d.pawrSyncWork.buf
  else pure (false, d.pawrSyncWork.buf)

variable {cfg ead}

/-- Decryption stays in its buffers for 11 to 72 bytes. -/
lemma safe_decryptPacket (key : KeyMaterial) (stack : Mem) {buf : NetBuf} (hb : buf.len < 2 ^ 16) :
    (decryptPacket ead key stack buf).Safe ↔ 11 ≤ buf.len ∧ buf.len ≤ 72 := by
  simp only [decryptPacket, Traced.safe_bind, Traced.safe_access, Access.Safe]
  have hheader : adHeaderLen = 2 := rfl
  have hmaxLen : eslEncryptedDataMaxLen = 61 := rfl
  constructor
  · rintro ⟨hmin, -, hmax, -⟩
    rw [NetBuf.len_pull (by omega) hb] at hmax
    omega
  · rintro ⟨hmin, hmax⟩
    refine ⟨hmin, by omega, ?_, ?_⟩
    · rw [NetBuf.len_pull (by omega) hb]
      omega
    · split <;> exact Traced.safe_pure _

/-- A packet is handed on only by a synchronised tag, and only if it is not empty. -/
lemma safe_receivePacket (stack : Mem) (counter : UInt16) (subevent : UInt8) {buf : NetBuf}
    (hb : buf.len < 2 ^ 16) (d : TagDevice) :
    (d.receivePacket cfg ead stack counter subevent buf).Safe
      ↔ d.tag.assoc.eslState ≠ .synchronized ∨ buf.len = 0
          ∨ (11 ≤ buf.len ∧ buf.len ≤ 72) := by
  by_cases hs : d.tag.assoc.eslState = .synchronized
  · by_cases hlen : buf.len = 0
    · simp [receivePacket, recvCb, hs, hlen]
    · have hpending : ({ d with pawrSyncWork.pending := false }.recvCb cfg counter subevent
          buf).pawrSyncWork = ⟨buf, counter, subevent, true⟩ := by
        simp [recvCb, hs, hlen]
      simp only [receivePacket, hpending, if_true, safe_decryptPacket _ stack hb, ne_eq, hs,
        not_true, hlen, false_or]
  · simp [receivePacket, recvCb, hs]

end TagDevice

/-! ## The access point -/

/-- The header check of the response work will pass on `buf`.  The second byte of a response of one
byte is the one that the slot held before. -/
def RspBuffer.HeaderPasses (r : RspBuffer) (buf : NetBuf) : Prop :=
  buf.len = (buf.data 0).toNat + 1
    ∧ (if 1 < buf.len then buf.data 1 else r.data 1) = btDataEncryptedAdData

namespace SyncBuffer

variable {cfg : ApConfig} {ead : Ead}

lemma safe_storeResponse (responseSlot : UInt8) (buf : NetBuf) (b : SyncBuffer) :
    (b.storeResponse cfg responseSlot buf).Safe
      ↔ responseSlot.toNat < cfg.maxResponseSlotBuffer ∧ buf.len ≤ eslEncryptedDataMaxLen := by
  simp [storeResponse, Access.Safe]

/-- What the check sees after the copy. -/
lemma legitEad_storeResponse (cfg : ApConfig) (responseSlot : UInt8) {buf : NetBuf}
    (b : SyncBuffer) (h₀ : buf.len ≠ 0) (hlen : buf.len ≤ eslEncryptedDataMaxLen) :
    ((b.storeResponse cfg responseSlot buf).val.rspBuffer responseSlot.toNat).rspLen.toNat = buf.len
      ∧ (((b.storeResponse cfg responseSlot buf).val.rspBuffer responseSlot.toNat).LegitEad
          ↔ (b.rspBuffer responseSlot.toNat).HeaderPasses buf) := by
  have hmax : buf.len ≤ 61 := hlen
  have hrspLen : (UInt8.ofNat buf.len).toNat = buf.len := by
    rw [UInt8.toNat_ofNat']
    omega
  simp only [storeResponse, Traced.val_bind, Traced.val_pure, Function.update_self,
    RspBuffer.LegitEad, RspBuffer.HeaderPasses, hrspLen, NetBuf.write_bytes,
    Nat.pos_of_ne_zero h₀, if_true, and_self]

end SyncBuffer

/-- Taking up a response is safe if its header passes only with 11 bytes or more. -/
lemma RspBuffer.safe_takeUp {ead : Ead} (stack : Mem) (responseSlot : UInt8) {r : RspBuffer}
    (hmax : r.rspLen.toNat ≤ eslEncryptedDataMaxLen) :
    (r.takeUp ead stack responseSlot).Safe ↔ (r.LegitEad → 11 ≤ r.rspLen.toNat) := by
  have hheader : adHeaderLen = 2 := rfl
  have hmaxLen : eslEncryptedDataMaxLen = 61 := rfl
  by_cases hlegit : r.LegitEad
  · have hlegit' : { r with rspSlot := responseSlot }.LegitEad := hlegit
    simp only [takeUp, if_pos hlegit', decrypt, Traced.safe_bind, Traced.safe_access, Access.Safe]
    constructor
    · rintro ⟨hmin, -⟩ -
      exact hmin
    · intro hmin
      have hmin := hmin hlegit
      refine ⟨hmin, by omega, ?_, ?_⟩
      · rw [NetBuf.len_pull (by dsimp only; omega) (by dsimp only; omega)]
        dsimp only
        omega
      · split
        · exact Traced.safe_pure _
        · simp only [Traced.safe_bind, Traced.safe_access, Access.Safe, Traced.safe_pure, and_true]
          omega
  · have hlegit' : ¬ { r with rspSlot := responseSlot }.LegitEad := hlegit
    simp [takeUp, if_neg hlegit', hlegit]

namespace Ap

variable (cfg : ApConfig) (ead : Ead)

/-- `pawr_response` on a response and, if that submits it, `esl_ap_resp_fill_buf_work_fn`. -/
def receiveResponse (stack : Mem) (info : ResponseInfo) (buf : NetBuf) (s : Ap) : Traced Ap := do
  let s ← { s with respPending := false }.pawrResponse cfg info buf
  if s.respPending then s.respFillBufWorkFn cfg ead stack else pure s

variable {cfg ead}

/-- A response is handled inside the buffers exactly when it is empty, or goes to an existing slot,
fits there, and is long enough for decryption if its header passes. -/
lemma safe_receiveResponse (stack : Mem) {info : ResponseInfo} (buf : NetBuf) (s : Ap)
    (hg : info.subevent.toNat < cfg.maxGroup) :
    (s.receiveResponse cfg ead stack info buf).Safe
      ↔ buf.len = 0 ∨ (info.responseSlot.toNat < cfg.maxResponseSlotBuffer
          ∧ buf.len ≤ eslEncryptedDataMaxLen
          ∧ (((s.syncBuf info.subevent.toNat).rspBuffer info.responseSlot.toNat).HeaderPasses buf →
              11 ≤ buf.len)) := by
  by_cases h₀ : buf.len = 0
  · simp [receiveResponse, pawrResponse, h₀]
  · set b := (s.syncBuf info.subevent.toNat).storeResponse cfg info.responseSlot buf with hb
    have hreceived : ({ s with respPending := false }.pawrResponse cfg info buf).val
        = { s.updateGroup info.subevent.toNat fun _ => b.val with
            respInfo := info, respPending := true } := by
      simp [pawrResponse, h₀, hb, updateGroup]
    have hreceivedSafe : ({ s with respPending := false }.pawrResponse cfg info buf).Safe
        ↔ b.Safe := by
      simp [pawrResponse, h₀, hb, Access.Safe, hg]
    simp only [receiveResponse, Traced.safe_bind, hreceivedSafe, hreceived, if_true, h₀, false_or]
    rw [hb, SyncBuffer.safe_storeResponse, and_assoc, ← hb]
    refine and_congr_right fun hslot => and_congr_right fun hlen => ?_
    obtain ⟨hrspLen, hlegit⟩ := SyncBuffer.legitEad_storeResponse cfg info.responseSlot
      (s.syncBuf info.subevent.toNat) h₀ hlen
    rw [← hb] at hrspLen hlegit
    simp only [respFillBufWorkFn, SyncBuffer.respFillBufWorkFn, Traced.safe_bind,
      Traced.safe_access, Access.Safe, Traced.safe_pure, syncBuf_updateGroup_same, hg, hslot,
      true_and, and_true]
    rw [RspBuffer.safe_takeUp stack info.responseSlot (by rw [hrspLen]; exact hlen), hlegit, hrspLen]

end Ap

/-! ## Both sides -/

/-- **When received data stays inside its buffers.**  For every byte string, state and Kconfig
choice, on a tag and on an access point. -/
theorem receivedData_iff (cfg : Config) (apCfg : ApConfig) (ead : Ead) (stack : Mem) (buf : NetBuf)
    (hb : buf.len < 2 ^ 16) :
    (∀ (d : TagDevice) (counter : UInt16) (subevent : UInt8),
      (d.receivePacket cfg ead stack counter subevent buf).Safe
        ↔ d.tag.assoc.eslState ≠ .synchronized ∨ buf.len = 0
            ∨ (11 ≤ buf.len ∧ buf.len ≤ 72))
    ∧ ∀ (s : Ap) (info : ResponseInfo), info.subevent.toNat < apCfg.maxGroup →
      ((s.receiveResponse apCfg ead stack info buf).Safe
        ↔ buf.len = 0 ∨ (info.responseSlot.toNat < apCfg.maxResponseSlotBuffer
            ∧ buf.len ≤ 61
            ∧ (((s.syncBuf info.subevent.toNat).rspBuffer info.responseSlot.toNat).HeaderPasses buf →
                11 ≤ buf.len))) := by
  constructor
  · intro d counter subevent
    exact TagDevice.safe_receivePacket stack counter subevent hb d
  · intro s info hg
    exact Ap.safe_receiveResponse stack buf s hg

/-- A packet of 14 bytes is safe on both sides. -/
theorem receivedData_answer :
    (∀ (d : TagDevice) (counter : UInt16) (subevent : UInt8),
      (d.receivePacket .sample .sample (fun _ => 0) counter subevent
        (.ofBytes Ead.Sample.answer fun _ => 0)).Safe)
      ∧ ((Ap.init .zero).receiveResponse .default .sample (fun _ => 0) ⟨0, 0⟩
          (.ofBytes Ead.Sample.answer fun _ => 0)).Safe := by
  obtain ⟨htag, hap⟩ := receivedData_iff .sample .default .sample (fun _ => 0)
    (.ofBytes Ead.Sample.answer fun _ => 0) (by decide)
  constructor
  · intro d counter subevent
    exact (htag d counter subevent).mpr (.inr (.inr (by decide)))
  · refine (hap (Ap.init .zero) ⟨0, 0⟩ (by decide)).mpr (.inr ⟨by decide, by decide, fun _ => ?_⟩)
    decide

/-- The tag of the sample run up to its synchronisation. -/
def synchronizedTag : Option TagDevice :=
  TransitionSystem.run (TagDevice.step .sample .sample) (TagDevice.boot .sample {})
    (configuredAndUpdating.take 9)

/-- A build with more response slots than slot buffers. -/
def ApConfig.nineSlots : ApConfig :=
  { ApConfig.default with numResponseSlots := 9, numResponseSlots_mem := by decide }

/-- One byte makes a length subtraction of a synchronised tag wrap; 62 bytes overrun a response slot
of the access point; and with nine slots and eight buffers the last slot does not exist. -/
theorem receivedData_overruns :
    synchronizedTag.map (fun d => decide (d.receivePacket .sample .sample (fun _ => 0) 0 0
        (.ofBytes [0] fun _ => 0)).Safe) = some false
      ∧ ¬ ((Ap.init .zero).receiveResponse .default .sample (fun _ => 0) ⟨0, 0⟩
          (.ofBytes (List.replicate 62 0) fun _ => 0)).Safe
      ∧ ¬ ((Ap.init .zero).receiveResponse .nineSlots .sample (fun _ => 0) ⟨0, 8⟩
          (.ofBytes Ead.Sample.answer fun _ => 0)).Safe := by
  refine ⟨by decide +kernel, by decide +kernel, by decide +kernel⟩

end NrfEsl
