import NrfEsl.Lib.Traced
import NrfEsl.Common

/-!
# Encrypted advertising data

The framing of `esl_common.c` around `bt_ead_encrypt` and `bt_ead_decrypt`, which belong to the
Bluetooth stack and are a parameter here (`Ead`).  `Ead.Lawful` is what the framing relies on:
decryption inverts encryption under the same key, and a plaintext is nine bytes shorter than its
ciphertext (five of randomizer, four of MIC).

An encrypted packet of a payload `p` is laid out in a buffer of 61 bytes:

    0      1      2 .. 6       7       8      9 ..            ..
    len    0x31   randomizer   |p|+1   0x34   p ..   MIC (4)

where bytes 7 up to the MIC are encrypted in place.
-/

namespace NrfEsl

/-- `bt_ead_encrypt` (with the randomizer it draws) and `bt_ead_decrypt`; `none` is an error. -/
structure Ead where
  encrypt : Vector UInt8 16 → Vector UInt8 8 → Vector UInt8 5 → List UInt8 → Option (List UInt8)
  decrypt : Vector UInt8 16 → Vector UInt8 8 → List UInt8 → Option (List UInt8)

/-- What the service relies on. -/
structure Ead.Lawful (ead : Ead) : Prop where
  decrypt_encrypt : ∀ {sk iv r p c}, ead.encrypt sk iv r p = some c → ead.decrypt sk iv c = some p
  length_decrypt : ∀ {sk iv c p}, ead.decrypt sk iv c = some p → c.length = p.length + 9

/-- A stand-in without secrecy: the randomizer, the payload in the clear, a zero MIC. -/
def Ead.clear : Ead where
  encrypt _ _ r p := some (r.toList ++ (p ++ [0, 0, 0, 0]))
  decrypt _ _ c :=
    if c.length < 9 ∨ c.drop (c.length - 4) ≠ [0, 0, 0, 0] then none
    else some ((c.drop 5).take (c.length - 9))

/-- The stand-in behaves as the stack's pair does. -/
lemma Ead.lawful_clear : Ead.clear.Lawful where
  decrypt_encrypt := by
    intro sk iv r p c h
    simp only [Ead.clear, Option.some_inj] at h ⊢
    have hlen : c.length = p.length + 9 := by
      rw [← h]
      simp
      omega
    have hmic : c.drop (c.length - 4) = [0, 0, 0, 0] := by
      rw [hlen, ← h, ← List.append_assoc]
      exact List.drop_left' (by simp; omega)
    have hbody : (c.drop 5).take (c.length - 9) = p := by
      rw [hlen, ← h, List.drop_left' (by simp)]
      simp
    rw [if_neg (by simp only [hmic, ne_eq, not_true, or_false]; omega), hbody]
  length_decrypt := by
    intro sk iv c p h
    simp only [Ead.clear] at h
    split at h
    case isTrue => cases h
    case isFalse hc =>
      simp only [Option.some_inj] at h
      rw [← h]
      simp
      omega

/-- The random bytes drawn while a packet is composed: by `esl_init_randomizer` and by
`bt_ead_encrypt`. -/
structure Randomness where
  randomizer : Vector UInt8 5
  eadRandomizer : Vector UInt8 5
  deriving DecidableEq, Repr

/-- No randomness. -/
def Randomness.zero : Randomness := ⟨Vector.replicate 5 0, Vector.replicate 5 0⟩

/-- `esl_init_randomizer`: the direction bit is the top bit of the last byte. -/
def eslInitRandomizer (rnd : Randomness) : Vector UInt8 5 :=
  rnd.randomizer.set 4 (rnd.randomizer[4] ||| 0x80)

/-- `esl_generate_ad_data_header` at offset `off` of the packet. -/
def eslGenerateAdDataHeader (randomizer : Vector UInt8 5) (adData : Mem) (off : ℕ)
    (eslPayloadLen : UInt8) : Mem :=
  if eslPayloadLen = 0 then adData
  else
    (adData.write off randomizer.toList).write (off + eadRandomizerLen)
      [eslPayloadLen + 1, btDataEsl]

/-- `esl_compose_ad_data`: the packet buffer afterwards and the length returned.  A failed
encryption is only logged, so the plaintext stays in the buffer. -/
def eslComposeAdData (ead : Ead) (rnd : Randomness) (paAdData : Mem) (eslPayload : List UInt8)
    (key : KeyMaterial) : Mem × UInt8 :=
  let eslPayloadLen := UInt8.ofNat eslPayload.length
  let m := paAdData.write (adHeaderLen + eadRandomizerLen + adHeaderLen)
    (eslPayload.take eslPayloadLen.toNat)
  let m := eslGenerateAdDataHeader (eslInitRandomizer rnd) m adHeaderLen eslPayloadLen
  let eslPayloadLen := eslPayloadLen + 2
  let plain := m.read (adHeaderLen + eadRandomizerLen) eslPayloadLen.toNat
  let m := match ead.encrypt key.sessionKey key.iv rnd.eadRandomizer plain with
    | some c => m.write adHeaderLen c
    | none => m
  let outLen := 11 + eslPayloadLen
  (m.write 0 [outLen - 1, btDataEncryptedAdData], outLen)

/-! ## What a composed packet contains -/

/-- The ESL AD structure of a payload. -/
def eslAd (payload : List UInt8) : List UInt8 :=
  UInt8.ofNat (payload.length + 1) :: btDataEsl :: payload

/-- The encrypted-data AD structure of a ciphertext. -/
def encryptedAd (c : List UInt8) : List UInt8 :=
  UInt8.ofNat (c.length + 1) :: btDataEncryptedAdData :: c

/-- `packet` is an encrypted packet of `payload`: who holds the key decrypts the ESL AD structure
of that payload. -/
def IsPacketOf (ead : Ead) (key : KeyMaterial) (payload packet : List UInt8) : Prop :=
  packet = encryptedAd (packet.drop adHeaderLen)
    ∧ ead.decrypt key.sessionKey key.iv (packet.drop adHeaderLen) = some (eslAd payload)

instance (ead key payload packet) : Decidable (IsPacketOf ead key payload packet) :=
  inferInstanceAs (Decidable (_ ∧ _))

/-- The encryption that `esl_compose_ad_data` asks for. -/
def encryptPayload (ead : Ead) (rnd : Randomness) (key : KeyMaterial) (payload : List UInt8) :
    Option (List UInt8) :=
  ead.encrypt key.sessionKey key.iv rnd.eadRandomizer (eslAd payload)

/-! ### A known answer -/

namespace Ead.Sample

/-- A key material of 24 different bytes. -/
def key : KeyMaterial := ⟨Vector.ofFn fun i => UInt8.ofNat i, Vector.ofFn fun i => UInt8.ofNat (16 + i)⟩

def rnd : Randomness := ⟨#v[1, 2, 3, 4, 0x85], #v[1, 2, 3, 4, 0x85]⟩

/-- A Ping to everybody in group 0. -/
def ping : List UInt8 := [0, 0, 0xFF]

/-- What AES-CCM makes of that Ping: randomizer, ciphertext, MIC. -/
def answer : List UInt8 :=
  [1, 2, 3, 4, 0x85, 0xB3, 0x4F, 0x2E, 0x54, 0x86, 0x7D, 0x67, 0xCA, 0xFD]

end Ead.Sample

/-- The real answer for the sample Ping, and the stand-in for everything else. -/
def Ead.sample : Ead where
  encrypt sk iv r p :=
    if sk = Sample.key.sessionKey ∧ iv = Sample.key.iv ∧ r = Sample.rnd.eadRandomizer
        ∧ p = eslAd Sample.ping then some Sample.answer
    else Ead.clear.encrypt sk iv r p
  decrypt sk iv c :=
    if sk = Sample.key.sessionKey ∧ iv = Sample.key.iv ∧ c = Sample.answer then
      some (eslAd Sample.ping)
    else Ead.clear.decrypt sk iv c

lemma Ead.lawful_sample : Ead.sample.Lawful where
  decrypt_encrypt := by
    intro sk iv r p c h
    simp only [Ead.sample] at h ⊢
    split at h
    case isTrue hs =>
      obtain ⟨rfl, rfl, rfl, rfl⟩ := hs
      rw [Option.some_inj] at h
      rw [if_pos ⟨rfl, rfl, h.symm⟩]
    case isFalse =>
      -- a MIC of zeros is not that of the sample
      have hne : c ≠ Sample.answer := by
        rintro rfl
        simp only [Ead.clear, Option.some_inj] at h
        have hlast := congrArg List.getLast? h
        simp [Sample.answer] at hlast
      rw [if_neg fun hs => hne hs.2.2]
      exact Ead.lawful_clear.decrypt_encrypt h
  length_decrypt := by
    intro sk iv c p h
    simp only [Ead.sample] at h
    split at h
    case isTrue hs =>
      rw [Option.some_inj] at h
      rw [hs.2.2, ← h]
      rfl
    case isFalse => exact Ead.lawful_clear.length_decrypt h

section Compose

variable {ead : Ead} {rnd : Randomness} {key : KeyMaterial} {payload : List UInt8}

@[simp] lemma length_eslAd : (eslAd payload).length = payload.length + 2 := rfl

@[simp] lemma length_encryptedAd (c : List UInt8) : (encryptedAd c).length = c.length + 2 := rfl

/-- A ciphertext is nine bytes longer than what was encrypted. -/
lemma Ead.Lawful.length_encryptPayload (hl : ead.Lawful) {c : List UInt8}
    (hc : encryptPayload ead rnd key payload = some c) : c.length = payload.length + 11 := by
  have h := hl.length_decrypt (hl.decrypt_encrypt hc)
  rw [length_eslAd] at h
  exact h

lemma Ead.Lawful.isPacketOf (hl : ead.Lawful) {c : List UInt8}
    (hc : encryptPayload ead rnd key payload = some c) :
    IsPacketOf ead key payload (encryptedAd c) :=
  ⟨rfl, hl.decrypt_encrypt hc⟩

/-- The length returned does not depend on what was in the buffer. -/
lemma outLen_eslComposeAdData (m : Mem) :
    (eslComposeAdData ead rnd m payload key).2 = UInt8.ofNat payload.length + 13 := by
  simp only [eslComposeAdData]
  generalize UInt8.ofNat payload.length = n
  exact forall_uint8 (P := fun n => 11 + (n + 2) = n + 13) (by decide +kernel) n

lemma toNat_outLen_eslComposeAdData (m : Mem) (hp : payload.length ≤ eslSyncPktPayloadMaxLen) :
    (eslComposeAdData ead rnd m payload key).2.toNat = payload.length + 13 := by
  have hmax : payload.length ≤ 48 := hp
  rw [outLen_eslComposeAdData]
  have h13 : (13 : UInt8).toNat = 13 := rfl
  simp only [UInt8.toNat_add, UInt8.toNat_ofNat', h13]
  omega

/-- What `esl_compose_ad_data` encrypts is the ESL AD structure of the payload, whatever was in the
buffer. -/
lemma read_eslGenerateAdDataHeader (m : Mem) (randomizer : Vector UInt8 5)
    (hne : UInt8.ofNat payload.length ≠ 0) :
    (eslGenerateAdDataHeader randomizer (m.write 9 payload) adHeaderLen
      (UInt8.ofNat payload.length)).read 7 (payload.length + 2) = eslAd payload := by
  have hhead := Mem.read_write_add ((m.write 9 payload).write adHeaderLen randomizer.toList) 7
    payload.length [UInt8.ofNat payload.length + 1, btDataEsl]
  have htail : ((m.write 9 payload).write adHeaderLen randomizer.toList).read 9 payload.length
      = payload := by
    rw [Mem.read_write_of_ge _ (by simp [adHeaderLen])]
    exact Mem.read_write m 9 payload
  simp only [eslGenerateAdDataHeader, hne, if_false]
  rw [show adHeaderLen + eadRandomizerLen = 7 from rfl, Nat.add_comm payload.length 2]
  simp only [List.length_cons, List.length_nil, Nat.zero_add, Nat.reduceAdd] at hhead
  rw [hhead, htail, eslAd, UInt8.ofNat_add]
  rfl

/-- **The packet composed.**  When encryption succeeds the buffer starts with the encrypted-data AD
structure of the ciphertext, whatever was in it before. -/
theorem read_eslComposeAdData (m : Mem) (h₀ : payload ≠ [])
    (hp : payload.length ≤ eslSyncPktPayloadMaxLen) {c : List UInt8}
    (hc : encryptPayload ead rnd key payload = some c) (hlen : c.length = payload.length + 11) :
    (eslComposeAdData ead rnd m payload key).1.read 0 (payload.length + 13) = encryptedAd c := by
  have hmax : payload.length ≤ 48 := hp
  have hpos : 0 < payload.length := List.length_pos_iff.mpr h₀
  have hn : (UInt8.ofNat payload.length).toNat = payload.length := by
    simp only [UInt8.toNat_ofNat']
    omega
  have hne : UInt8.ofNat payload.length ≠ 0 := by
    intro h
    rw [h, UInt8.toNat_zero] at hn
    omega
  have hn2 : (UInt8.ofNat payload.length + 2).toNat = payload.length + 2 := by
    have h2 : (2 : UInt8).toNat = 2 := rfl
    simp only [UInt8.toNat_add, UInt8.toNat_ofNat', h2]
    omega
  have hout : 11 + (UInt8.ofNat payload.length + 2) - 1 = UInt8.ofNat (c.length + 1) := by
    rw [hlen, show payload.length + 11 + 1 = payload.length + 12 from rfl, UInt8.ofNat_add]
    generalize UInt8.ofNat payload.length = n
    exact forall_uint8 (P := fun n => 11 + (n + 2) - 1 = n + UInt8.ofNat 12) (by decide +kernel) n
  have hplain := read_eslGenerateAdDataHeader m (eslInitRandomizer rnd) hne
  simp only [eslComposeAdData, hn, hn2, List.take_length, hout]
  rw [show adHeaderLen + eadRandomizerLen = 7 from rfl, show 7 + adHeaderLen = 9 from rfl, hplain,
    show ead.encrypt key.sessionKey key.iv rnd.eadRandomizer (eslAd payload) = some c from hc,
    show payload.length + 13 = 2 + c.length by omega]
  set m' := eslGenerateAdDataHeader (eslInitRandomizer rnd) (m.write 9 payload) adHeaderLen
    (UInt8.ofNat payload.length)
  calc ((m'.write adHeaderLen c).write 0
          [UInt8.ofNat (c.length + 1), btDataEncryptedAdData]).read 0 (2 + c.length)
      = [UInt8.ofNat (c.length + 1), btDataEncryptedAdData]
          ++ (m'.write adHeaderLen c).read adHeaderLen c.length := Mem.read_write_add _ 0 _ _
    _ = encryptedAd c := by rw [Mem.read_write]; rfl

/-- **Composing encodes the payload**, as long as encryption succeeds. -/
theorem Ead.Lawful.isPacketOf_eslComposeAdData (hl : ead.Lawful) (m : Mem) (h₀ : payload ≠ [])
    (hp : payload.length ≤ eslSyncPktPayloadMaxLen)
    (hs : (encryptPayload ead rnd key payload).isSome) :
    IsPacketOf ead key payload ((eslComposeAdData ead rnd m payload key).1.read 0
      (eslComposeAdData ead rnd m payload key).2.toNat) := by
  obtain ⟨c, hc⟩ := Option.isSome_iff_exists.mp hs
  rw [toNat_outLen_eslComposeAdData m hp,
    read_eslComposeAdData m h₀ hp hc (hl.length_encryptPayload hc)]
  exact hl.isPacketOf hc

end Compose

end NrfEsl
