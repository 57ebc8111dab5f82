import NrfEsl.Ap.Step
import NrfEsl.Tag.Step

/-!
# The packet framing, from one device to the other

Four functions compute the layout of a packet, each with its own constants and in 8-bit lengths.
This module follows one payload through them: `esl_compose_ad_data` on the sender, then
`esl_pawr_sync_work_fn` on a tag or `pawr_response` with `esl_ap_resp_fill_buf_work_fn` on the
access point.  The keys get to the tag through two byte swaps of the session key.

**Nothing is off by one**: `eadFraming_roundTrip` holds for every key and every payload of 1 to 48
bytes, and no copy leaves its buffer on the way.
-/

namespace NrfEsl

/-! ## Keys -/

/-- The two swaps cancel, whatever lies behind the 24 bytes written. -/
lemma storedKey_keyV (k : KeyMaterial) (beyond : Mem) (offset : ℕ) :
    EslTag.storedKey ⟨.ofBytes k.swapSessionKey.keyV beyond, offset⟩ = k := by
  simp only [EslTag.storedKey, NetBuf.ofBytes, KeyMaterial.ofKeyV_keyV,
    KeyMaterial.swapSessionKey_swapSessionKey]

/-- The tag keeps the AP Sync Key it was written. -/
lemma eslApKey_apKeyWrite (cfg : Config) (w : AttWrite) (t : EslTag) :
    (t.apKeyWrite cfg w).2.assoc.eslApKey = EslTag.storedKey w := by
  simp only [EslTag.apKeyWrite, EslTag.eslIsConfiguringState]
  split <;> rfl

/-- The tag keeps the response key it was written. -/
lemma eslRspKey_eslRspKeyWrite (cfg : Config) (w : AttWrite) (t : EslTag) :
    (t.eslRspKeyWrite cfg w).2.assoc.eslRspKey = EslTag.storedKey w := by
  simp only [EslTag.eslRspKeyWrite, EslTag.eslIsConfiguringState]
  split <;> rfl

/-! ## Packets -/

/-- The packet of a payload: what `esl_compose_ad_data` leaves in a buffer of any contents. -/
def composedPacket (ead : Ead) (rnd : Randomness) (m : Mem) (payload : List UInt8)
    (key : KeyMaterial) : List UInt8 :=
  let r := eslComposeAdData ead rnd m payload key
  r.1.read 0 r.2.toNat

section Packet

variable {ead : Ead} {key : KeyMaterial} {payload : List UInt8} {buf : NetBuf}

/-- A buffer with the ESL AD structure of a payload passes the check of the parser. -/
lemma isEslAd_of_bytes (hp : payload.length ≤ eslSyncPktPayloadMaxLen)
    (h : buf.bytes = eslAd payload) : TagDevice.IsEslAd buf := by
  have hmax : payload.length ≤ 48 := hp
  have hlen : buf.len = payload.length + 2 := by
    rw [← NetBuf.length_bytes, h, length_eslAd]
  have h₀ : buf.data 0 = UInt8.ofNat (payload.length + 1) := NetBuf.data_of_bytes [] h
  have h₁ : buf.data 1 = btDataEsl :=
    NetBuf.data_of_bytes [UInt8.ofNat (payload.length + 1)] h
  refine ⟨?_, h₁⟩
  rw [hlen, h₀, UInt8.toNat_ofNat']
  omega

/-- The lengths of a packet and its ciphertext. -/
lemma IsPacketOf.lengths (hl : ead.Lawful) (h : IsPacketOf ead key payload buf.bytes) :
    buf.len = payload.length + 13
      ∧ (buf.bytes.drop adHeaderLen).length = payload.length + 11 := by
  obtain ⟨hpacket, hdec⟩ := h
  have hc := hl.length_decrypt hdec
  rw [length_eslAd] at hc
  refine ⟨?_, hc⟩
  rw [← NetBuf.length_bytes, hpacket, length_encryptedAd, hc]

/-- Pulling the AD header off a packet leaves the ciphertext. -/
lemma IsPacketOf.bytes_pull (hl : ead.Lawful) (hp : payload.length ≤ eslSyncPktPayloadMaxLen)
    (h : IsPacketOf ead key payload buf.bytes) :
    (buf.pull adHeaderLen).bytes = buf.bytes.drop adHeaderLen := by
  have hmax : payload.length ≤ 48 := hp
  have hlen := (h.lengths hl).1
  exact NetBuf.bytes_pull [_, btDataEncryptedAdData] h.1 (by omega)

/-- **On the tag** a packet decrypts to the ESL AD structure of its payload, inside the buffers. -/
theorem IsPacketOf.decryptPacket (hl : ead.Lawful) (hp : payload.length ≤ eslSyncPktPayloadMaxLen)
    (h : IsPacketOf ead key payload buf.bytes) (stack : Mem) :
    (TagDevice.decryptPacket ead key stack buf).Safe
      ∧ ∃ b : NetBuf, (TagDevice.decryptPacket ead key stack buf).val = (true, b)
          ∧ b.bytes = eslAd payload := by
  have hmax : payload.length ≤ 48 := hp
  obtain ⟨hlen, -⟩ := h.lengths hl
  have hdec : ead.decrypt key.sessionKey key.iv (buf.pull adHeaderLen).bytes
      = some (eslAd payload) := by
    rw [h.bytes_pull hl hp]
    exact h.2
  have hpull : (buf.pull adHeaderLen).len = payload.length + 11 := by
    rw [NetBuf.len_pull (by rw [hlen, adHeaderLen]; omega) (by omega), hlen]
    rfl
  have hpayloadLen : (2 ^ 16 + buf.len - 11) % 2 ^ 16 = payload.length + 2 := by
    rw [hlen]
    omega
  refine ⟨?_, ⟨stack.write 0 (eslAd payload), payload.length + 2⟩, ?_, ?_⟩
  · simp only [TagDevice.decryptPacket, hdec, Traced.safe_bind, Traced.safe_access, Access.Safe,
      Traced.safe_pure, hpull, and_true]
    have hmaxLen : eslEncryptedDataMaxLen = 61 := rfl
    have hheader : adHeaderLen = 2 := rfl
    omega
  · simp only [TagDevice.decryptPacket, hdec, Traced.val_bind, Traced.val_pure, hpayloadLen]
  · exact Mem.read_write stack 0 (eslAd payload)

/-- **On the access point** a packet in a response slot is replaced by the ESL AD structure of its
payload, inside the buffers. -/
theorem IsPacketOf.takeUp (hl : ead.Lawful) (hp : payload.length ≤ eslSyncPktPayloadMaxLen)
    {r : RspBuffer} (hkey : r.rspKey = key) (h : IsPacketOf ead key payload r.bytes) (stack : Mem)
    (responseSlot : UInt8) :
    (r.takeUp ead stack responseSlot).Safe
      ∧ (r.takeUp ead stack responseSlot).val.bytes = eslAd payload
      ∧ (r.takeUp ead stack responseSlot).val.rspLen.toNat = payload.length + 2
      ∧ (r.takeUp ead stack responseSlot).val.status = .respFull := by
  have hmax : payload.length ≤ 48 := hp
  have hpacket : IsPacketOf ead key payload (NetBuf.mk r.data r.rspLen.toNat).bytes := h
  obtain ⟨hlen, hc⟩ := hpacket.lengths hl
  have hrspLen : r.rspLen.toNat = payload.length + 13 := hlen
  have hlegit : { r with rspSlot := responseSlot }.LegitEad := by
    have h₀ : r.data 0 = UInt8.ofNat _ :=
      NetBuf.data_of_bytes (b := ⟨r.data, r.rspLen.toNat⟩) [] hpacket.1
    have h₁ : r.data 1 = btDataEncryptedAdData :=
      NetBuf.data_of_bytes (b := ⟨r.data, r.rspLen.toNat⟩) [_] hpacket.1
    refine ⟨?_, h₁⟩
    show r.rspLen.toNat = (r.data 0).toNat + 1
    rw [h₀, UInt8.toNat_ofNat', hc, hrspLen]
    omega
  have hdec : ead.decrypt r.rspKey.sessionKey r.rspKey.iv
      ((NetBuf.mk r.data r.rspLen.toNat).pull adHeaderLen).bytes = some (eslAd payload) := by
    rw [hkey, hpacket.bytes_pull hl hp]
    exact hpacket.2
  have hpull : ((NetBuf.mk r.data r.rspLen.toNat).pull adHeaderLen).len = payload.length + 11 := by
    rw [NetBuf.len_pull (by rw [hlen, adHeaderLen]; omega) (by omega), hlen]
    rfl
  have hpayloadLen : (2 ^ 32 + r.rspLen.toNat - 11) % 2 ^ 32 = payload.length + 2 := by
    rw [hrspLen]
    omega
  have hstored : (stack.write 0 (eslAd payload)).read 0 (payload.length + 2) = eslAd payload :=
    Mem.read_write stack 0 (eslAd payload)
  have hnewLen : (UInt8.ofNat (payload.length + 2)).toNat = payload.length + 2 := by
    rw [UInt8.toNat_ofNat']
    omega
  simp only [RspBuffer.takeUp, if_pos hlegit]
  refine ⟨?_, ?_, ?_, ?_⟩
  · simp only [RspBuffer.decrypt, hdec, Traced.safe_bind, Traced.safe_access, Access.Safe,
      Traced.safe_pure, hpull, hpayloadLen, and_true]
    have hmaxLen : eslEncryptedDataMaxLen = 61 := rfl
    have hheader : adHeaderLen = 2 := rfl
    omega
  · simp only [RspBuffer.decrypt, hdec, Traced.val_bind, Traced.val_pure, RspBuffer.bytes,
      hpayloadLen, hstored, hnewLen]
    exact Mem.read_write r.data 0 (eslAd payload)
  · simp only [RspBuffer.decrypt, hdec, Traced.val_bind, Traced.val_pure, hpayloadLen, hnewLen]
  · simp only [RspBuffer.decrypt, hdec, Traced.val_bind, Traced.val_pure]

/-- A packet that `pawr_response` has copied into its slot is the packet received. -/
lemma bytes_storeResponse {cfg : ApConfig} {b : SyncBuffer} {responseSlot : UInt8}
    (hl : ead.Lawful) (hp : payload.length ≤ eslSyncPktPayloadMaxLen)
    (h : IsPacketOf ead key payload buf.bytes) :
    ((b.storeResponse cfg responseSlot buf).val.rspBuffer responseSlot.toNat).bytes
      = buf.bytes := by
  have hmax : payload.length ≤ 48 := hp
  have hlen := (h.lengths hl).1
  have hnewLen : (UInt8.ofNat buf.len).toNat = buf.bytes.length := by
    rw [UInt8.toNat_ofNat', NetBuf.length_bytes]
    omega
  simp only [SyncBuffer.storeResponse, Traced.val_bind, Traced.val_pure, Function.update_self,
    RspBuffer.bytes, hnewLen]
  exact Mem.read_write _ 0 buf.bytes

end Packet

/-! ## Both directions -/

/-- The device after `esl_pawr_sync_work_fn` has found `buf` in the packet: the parser takes it up,
or the state timeout is renewed at once. -/
def TagDevice.takeUpPacket (cfg : Config) (buf : NetBuf) (d : TagDevice) : TagDevice :=
  let d := { d with pawrSyncWork := { d.pawrSyncWork with pending := false, buf := buf } }.beginPacket
  if d.parser.isSome then d else d.renewTimeout cfg

/-- `esl_pawr_sync_work_fn` hands a decrypted packet to the parser. -/
lemma TagDevice.pawrSyncWorkFn_of_decrypted {cfg : Config} {ead : Ead} {stack : Mem} {d : TagDevice}
    {b : NetBuf} (h : (decryptPacket ead d.tag.assoc.eslApKey stack d.pawrSyncWork.buf).val = (true, b))
    (hb : b.len ≠ 0) : d.pawrSyncWorkFn cfg ead stack = d.takeUpPacket cfg b := by
  simp only [TagDevice.pawrSyncWorkFn, TagDevice.takeUpPacket, h, ne_eq, hb, not_false_eq_true,
    and_self, if_true]

/-- What the framing has to do with a payload, from key update to both receivers. -/
structure EadRoundTrip (cfg : Config) (apCfg : ApConfig) (ead : Ead) (rnd : Randomness)
    (key : KeyMaterial) (payload : List UInt8) : Prop where
  /-- After the access point has written the key, the tag holds it. -/
  apKey : ∀ (t : EslTag) (beyond : Mem) (offset : ℕ),
    (t.apKeyWrite cfg ⟨.ofBytes (eslCApKeyUpdate key) beyond, offset⟩).2.assoc.eslApKey = key
  rspKey : ∀ (t : EslTag) (rand : KeyMaterial) (beyond : Mem) (offset : ℕ),
    (t.eslRspKeyWrite cfg ⟨.ofBytes (eslCRspKeyUpdate rand key).2 beyond, offset⟩).2.assoc.eslRspKey
      = (eslCRspKeyUpdate rand key).1
  /-- The packet fits in its buffer and has the right length byte and AD type. -/
  composed : ∀ m : Mem,
    (eslComposeAdData ead rnd m payload key).2.toNat = 13 + payload.length
      ∧ 13 + payload.length ≤ eslEncryptedDataMaxLen
      ∧ (eslComposeAdData ead rnd m payload key).1 0
          = (eslComposeAdData ead rnd m payload key).2 - 1
      ∧ (eslComposeAdData ead rnd m payload key).1 1 = btDataEncryptedAdData
  /-- A tag with the key turns the packet into the ESL AD structure that its parser accepts. -/
  tag : ∀ (m stack : Mem) (d : TagDevice), d.tag.assoc.eslApKey = key →
    d.pawrSyncWork.buf.bytes = composedPacket ead rnd m payload key →
    (TagDevice.decryptPacket ead key stack d.pawrSyncWork.buf).Safe
      ∧ ∃ b : NetBuf, b.bytes = eslAd payload ∧ TagDevice.IsEslAd b
          ∧ d.pawrSyncWorkFn cfg ead stack = d.takeUpPacket cfg b
  /-- The access point replaces the packet in its response slot by the ESL AD structure. -/
  ap : ∀ (m stack : Mem) (s : Ap) (info : ResponseInfo) (buf : NetBuf),
    ((s.syncBuf info.subevent.toNat).rspBuffer info.responseSlot.toNat).rspKey = key →
    buf.bytes = composedPacket ead rnd m payload key →
    let received := s.pawrResponse apCfg info buf
    let answered := received.val.respFillBufWorkFn apCfg ead stack
    let r := (answered.val.syncBuf info.subevent.toNat).rspBuffer info.responseSlot.toNat
    r.bytes = eslAd payload ∧ r.rspLen.toNat = payload.length + 2 ∧ r.status = .respFull
      ∧ (info.subevent.toNat < apCfg.maxGroup →
          info.responseSlot.toNat < apCfg.maxResponseSlotBuffer → received.Safe ∧ answered.Safe)

/-- **EAD framing round trip.**  For every key and every payload of 1 to 48 bytes that the stack
encrypts, the tag holds the key, the packet is well formed, and either receiver gets the ESL AD
structure of the payload back. -/
theorem eadFraming_roundTrip (cfg : Config) (apCfg : ApConfig) (ead : Ead) (hl : ead.Lawful)
    (rnd : Randomness) (key : KeyMaterial) (payload : List UInt8) (h₀ : payload ≠ [])
    (hp : payload.length ≤ eslSyncPktPayloadMaxLen)
    (hs : (encryptPayload ead rnd key payload).isSome) :
    EadRoundTrip cfg apCfg ead rnd key payload := by
  have hmax : payload.length ≤ 48 := hp
  have hpacket : ∀ m, IsPacketOf ead key payload (composedPacket ead rnd m payload key) :=
    fun m => hl.isPacketOf_eslComposeAdData m h₀ hp hs
  refine ⟨?_, ?_, ?_, ?_, ?_⟩
  · intro t beyond offset
    rw [eslApKey_apKeyWrite, eslCApKeyUpdate, storedKey_keyV]
  · intro t rand beyond offset
    rw [eslRspKey_eslRspKeyWrite]
    simp only [eslCRspKeyUpdate, storedKey_keyV]
  · intro m
    refine ⟨by rw [toNat_outLen_eslComposeAdData m hp, Nat.add_comm], ?_, rfl, rfl⟩
    show 13 + payload.length ≤ 61
    omega
  · intro m stack d hkey hbuf
    obtain ⟨hsafe, b, hval, hb⟩ := (hbuf ▸ hpacket m).decryptPacket hl hp stack
    refine ⟨hsafe, b, hb, isEslAd_of_bytes hp hb, ?_⟩
    refine TagDevice.pawrSyncWorkFn_of_decrypted (hkey ▸ hval) ?_
    rw [← NetBuf.length_bytes, hb, length_eslAd]
    omega
  · intro m stack s info buf hkey hbuf
    have hpkt : IsPacketOf ead key payload buf.bytes := hbuf ▸ hpacket m
    have hlen : buf.len = payload.length + 13 := (hpkt.lengths hl).1
    have hreceived : (s.pawrResponse apCfg info buf).val
        = { s.updateGroup info.subevent.toNat fun _ =>
              ((s.syncBuf info.subevent.toNat).storeResponse apCfg info.responseSlot buf).val with
            respInfo := info, respPending := true } := by
      simp [Ap.pawrResponse, show buf.len ≠ 0 by omega]
    set b := (s.syncBuf info.subevent.toNat).storeResponse apCfg info.responseSlot buf
    set r := b.val.rspBuffer info.responseSlot.toNat
    have hr : IsPacketOf ead key payload r.bytes := by
      rw [show r.bytes = buf.bytes from bytes_storeResponse hl hp hpkt]
      exact hpkt
    have hrkey : r.rspKey = key := by
      simp only [r, b, SyncBuffer.storeResponse, Traced.val_bind, Traced.val_pure,
        Function.update_self]
      exact hkey
    obtain ⟨hsafe, hbytes, hrspLen, hstatus⟩ := hr.takeUp hl hp hrkey stack info.responseSlot
    have hanswered : (((s.pawrResponse apCfg info buf).val.respFillBufWorkFn apCfg ead stack).val.syncBuf
        info.subevent.toNat).rspBuffer info.responseSlot.toNat
          = (r.takeUp ead stack info.responseSlot).val := by
      rw [hreceived, Ap.val_respFillBufWorkFn]
      simp [SyncBuffer.respFillBufWorkFn, r]
    dsimp only
    rw [hanswered]
    refine ⟨hbytes, hrspLen, hstatus, fun hgroup hslot => ⟨?_, ?_⟩⟩
    · simp only [Ap.pawrResponse, show buf.len ≠ 0 by omega, if_false, Traced.safe_bind,
        Traced.safe_access, Access.Safe, Traced.safe_pure, SyncBuffer.storeResponse, hgroup, hslot,
        true_and, and_true]
      show 0 + buf.len ≤ 61
      omega
    · rw [hreceived]
      simp only [Ap.respFillBufWorkFn, SyncBuffer.respFillBufWorkFn, Traced.safe_bind,
        Traced.safe_access, Access.Safe, Traced.safe_pure, Ap.syncBuf_updateGroup_same, hgroup,
        hslot, true_and, and_true]
      exact hsafe

theorem eadFraming_ping :
    Ead.Sample.ping ≠ [] ∧ Ead.Sample.ping.length ≤ eslSyncPktPayloadMaxLen
      ∧ (encryptPayload .sample Ead.Sample.rnd Ead.Sample.key Ead.Sample.ping).isSome
      ∧ EadRoundTrip .sample .default .sample Ead.Sample.rnd Ead.Sample.key Ead.Sample.ping :=
  ⟨by decide, by decide, by decide +kernel,
    eadFraming_roundTrip .sample .default .sample Ead.lawful_sample Ead.Sample.rnd Ead.Sample.key
      Ead.Sample.ping (by decide) (by decide) (by decide +kernel)⟩

end NrfEsl
