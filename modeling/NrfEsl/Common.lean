import Mathlib.Data.List.Basic
import NrfEsl.Lib.Memory

/-!
# Shared definitions of the service and the access point

The constants and macros of `esl_common.h`, the enumerations of `esl_internal.h` and the key
material both sides hold.  Names follow the source; `ESL_` and `CONFIG_` prefixes are dropped
where nothing else is meant.

* **`EslAddr`** — an ESL address whose ID byte is not the broadcast ID.  `esl_addr_write` is the
  only writer of a new address and refuses 0xFF there; everything else stores 0x8000 or a value
  saved earlier.  The type carries that check.
* **`KeyMaterial`** — the union of 24 bytes with a session key and an IV.
* **`Config`** — the Kconfig symbols and the optional callbacks of a build, with their ranges.
-/

namespace NrfEsl

/-! ## Sizes and constants -/

def eslAddrBroadcast : UInt8 := 0xFF
def btDataEsl : UInt8 := 0x34
def btDataEncryptedAdData : UInt8 := 0x31
def adHeaderLen : ℕ := 2
def eadRandomizerLen : ℕ := 5
def eslSyncPktMicLen : ℕ := 4
def eslSyncPktPayloadMaxLen : ℕ := 48
def eslEncryptedDataMaxLen : ℕ :=
  adHeaderLen + eadRandomizerLen + adHeaderLen + eslSyncPktPayloadMaxLen + eslSyncPktMicLen
def eslEadPayloadMaxLen : ℕ := eslEncryptedDataMaxLen + adHeaderLen
/-- `SYNC_PKK_MIN_LEN`, that is randomizer, MIC and AD header. -/
def syncPktMinLen : ℕ := eadRandomizerLen + eslSyncPktMicLen + adHeaderLen
def eslLedFlashPatternLen : ℕ := 5
def eslLedFlashPatternStartBitIdx : UInt8 := 40
def eslTimedAbsMax : ℕ := 4147200000
def btHciErrLocalhostTermConn : UInt8 := 0x16
def btHciErrAuthFail : UInt8 := 0x05
def msecPerSec : ℕ := 1000

/-! ## Byte macros -/

def lowByte (x : UInt16) : UInt8 := x.toUInt8
def highByte (x : UInt16) : UInt8 := (x >>> 8).toUInt8
def groupIdByte (x : UInt16) : UInt8 := ((x >>> 8) &&& 0x7F).toUInt8
/-- Length of a command or response TLV, from its opcode byte. -/
def ecpLen (x : UInt8) : ℕ := ((x &&& 0xf0) >>> 4).toNat + 2

/-- `sys_get_le16` -/
def sysGetLe16 (m : Mem) (off : ℕ) : UInt16 :=
  (m off).toUInt16 ||| ((m (off + 1)).toUInt16 <<< 8)

/-- `sys_get_le32` -/
def sysGetLe32 (m : Mem) (off : ℕ) : UInt32 :=
  (m off).toUInt32 ||| ((m (off + 1)).toUInt32 <<< 8) |||
    ((m (off + 2)).toUInt32 <<< 16) ||| ((m (off + 3)).toUInt32 <<< 24)

lemma forall_uint8 {P : UInt8 → Prop} (h : ∀ b : BitVec 8, P ⟨b⟩) (x : UInt8) : P x := h x.toBitVec

/-- The length of a TLV is two more than the high nibble of its opcode. -/
lemma ecpLen_eq (x : UInt8) : ecpLen x = x.toNat / 16 + 2 :=
  forall_uint8 (P := fun x => ecpLen x = x.toNat / 16 + 2) (by decide +kernel) x

lemma two_le_ecpLen (x : UInt8) : 2 ≤ ecpLen x := Nat.le_add_left _ _

lemma ecpLen_le (x : UInt8) : ecpLen x ≤ 17 := by
  have h := x.toNat_lt
  rw [ecpLen_eq]
  omega

/-! ### Little-endian values -/

/-- A byte below a shifted value. -/
lemma or_shiftLeft_of_lt {a b k : ℕ} (h : a < 2 ^ k) : a ||| (b <<< k) = a + 2 ^ k * b := by
  rw [Nat.or_comm, ← Nat.shiftLeft_add_eq_or_of_lt h, Nat.shiftLeft_eq, Nat.add_comm, Nat.mul_comm]

lemma toNat_sysGetLe16 (m : Mem) (off : ℕ) :
    (sysGetLe16 m off).toNat = (m off).toNat + 2 ^ 8 * (m (off + 1)).toNat := by
  have h₀ := (m off).toNat_lt
  have h₁ := (m (off + 1)).toNat_lt
  simp only [sysGetLe16, UInt16.toNat_or, UInt16.toNat_shiftLeft, UInt8.toNat_toUInt16]
  have hs : (8 : UInt16).toNat % 16 = 8 := rfl
  rw [hs, Nat.shiftLeft_eq, Nat.mod_eq_of_lt (by omega), ← Nat.shiftLeft_eq, or_shiftLeft_of_lt h₀]

lemma toNat_sysGetLe32 (m : Mem) (off : ℕ) :
    (sysGetLe32 m off).toNat = (m off).toNat + 2 ^ 8 * (m (off + 1)).toNat
      + 2 ^ 16 * (m (off + 2)).toNat + 2 ^ 24 * (m (off + 3)).toNat := by
  have h₀ := (m off).toNat_lt
  have h₁ := (m (off + 1)).toNat_lt
  have h₂ := (m (off + 2)).toNat_lt
  have h₃ := (m (off + 3)).toNat_lt
  have hshift : ∀ (b : UInt8) (k : ℕ), k ≤ 24 → (b.toNat <<< k) % 2 ^ 32 = b.toNat <<< k := by
    intro b k hk
    have hb := b.toNat_lt
    have hp : 2 ^ k ≤ 2 ^ 24 := Nat.pow_le_pow_right (by omega) hk
    rw [Nat.shiftLeft_eq]
    have hle : b.toNat * 2 ^ k ≤ 255 * 2 ^ 24 := Nat.mul_le_mul (by omega) hp
    exact Nat.mod_eq_of_lt (by omega)
  have h8 : (8 : UInt32).toNat % 32 = 8 := rfl
  have h16 : (16 : UInt32).toNat % 32 = 16 := rfl
  have h24 : (24 : UInt32).toNat % 32 = 24 := rfl
  simp only [sysGetLe32, UInt32.toNat_or, UInt32.toNat_shiftLeft, UInt8.toNat_toUInt32, h8, h16, h24]
  have h₀₁ : (m off).toNat + 2 ^ 8 * (m (off + 1)).toNat < 2 ^ 16 := by omega
  have h₀₂ : (m off).toNat + 2 ^ 8 * (m (off + 1)).toNat + 2 ^ 16 * (m (off + 2)).toNat < 2 ^ 24 := by
    omega
  rw [hshift _ _ (by omega), hshift _ _ (by omega), hshift _ _ (by omega),
    or_shiftLeft_of_lt h₀, or_shiftLeft_of_lt h₀₁, or_shiftLeft_of_lt h₀₂]

lemma toNat_lowByte (x : UInt16) : (lowByte x).toNat = x.toNat % 2 ^ 8 := rfl

lemma toNat_highByte (x : UInt16) : (highByte x).toNat = x.toNat / 2 ^ 8 := by
  have h := x.toNat_lt
  have hhigh : (highByte x).toNat = (x.toNat >>> 8) % 2 ^ 8 := rfl
  rw [hhigh, Nat.shiftRight_eq_div_pow]
  omega

/-- The two bytes of a value, read back. -/
lemma sysGetLe16_bytes (x : UInt16) (beyond : Mem) :
    sysGetLe16 (Mem.ofBytes [lowByte x, highByte x] beyond) 0 = x := by
  apply UInt16.toNat_inj.mp
  have hlow : Mem.ofBytes [lowByte x, highByte x] beyond 0 = lowByte x := rfl
  have hhigh : Mem.ofBytes [lowByte x, highByte x] beyond (0 + 1) = highByte x := rfl
  rw [toNat_sysGetLe16, hlow, hhigh, toNat_lowByte, toNat_highByte]
  omega

/-- The bytes of a 32-bit value. -/
def le32Bytes (x : UInt32) : List UInt8 :=
  [x.toUInt8, (x >>> 8).toUInt8, (x >>> 16).toUInt8, (x >>> 24).toUInt8]

/-- The four bytes of a value, read back. -/
lemma sysGetLe32_of_bytes {m : Mem} {off : ℕ} {x : UInt32}
    (h : [m off, m (off + 1), m (off + 2), m (off + 3)] = le32Bytes x) : sysGetLe32 m off = x := by
  obtain ⟨h₀, h₁, h₂, h₃⟩ : m off = x.toUInt8 ∧ m (off + 1) = (x >>> 8).toUInt8
      ∧ m (off + 2) = (x >>> 16).toUInt8 ∧ m (off + 3) = (x >>> 24).toUInt8 := by
    simpa [le32Bytes] using h
  have hbyte : ∀ k < 32, ∀ s : UInt32, s.toNat = k →
      ((x >>> s).toUInt8).toNat = x.toNat / 2 ^ k % 2 ^ 8 := by
    rintro k hk s rfl
    rw [UInt32.toNat_toUInt8, UInt32.toNat_shiftRight, Nat.mod_eq_of_lt hk,
      Nat.shiftRight_eq_div_pow]
  have hx := x.toNat_lt
  apply UInt32.toNat_inj.mp
  rw [toNat_sysGetLe32, h₀, h₁, h₂, h₃, hbyte 8 (by omega) 8 rfl, hbyte 16 (by omega) 16 rfl,
    hbyte 24 (by omega) 24 rfl, UInt32.toNat_toUInt8]
  omega

/-! ## Commands and responses -/

/-- `enum ESL_OP_CODE` -/
inductive EslOpCode
  | ping | unassociate | serviceReset | factoryReset | updateComplete | readSensorData
  | refreshDisplay | displayImage | displayTimedImage | ledControl | ledTimedControl
  deriving DecidableEq, Repr

/-- The `case` labels of the command switch. -/
def EslOpCode.ofByte? (b : UInt8) : Option EslOpCode :=
  if b = 0x00 then some .ping
  else if b = 0x01 then some .unassociate
  else if b = 0x02 then some .serviceReset
  else if b = 0x03 then some .factoryReset
  else if b = 0x04 then some .updateComplete
  else if b = 0x10 then some .readSensorData
  else if b = 0x11 then some .refreshDisplay
  else if b = 0x20 then some .displayImage
  else if b = 0x60 then some .displayTimedImage
  else if b = 0xB0 then some .ledControl
  else if b = 0xF0 then some .ledTimedControl
  else none

def EslOpCode.toByte : EslOpCode → UInt8
  | .ping => 0x00
  | .unassociate => 0x01
  | .serviceReset => 0x02
  | .factoryReset => 0x03
  | .updateComplete => 0x04
  | .readSensorData => 0x10
  | .refreshDisplay => 0x11
  | .displayImage => 0x20
  | .displayTimedImage => 0x60
  | .ledControl => 0xB0
  | .ledTimedControl => 0xF0

/-- A byte selects a label exactly when it is that opcode. -/
lemma EslOpCode.ofByte?_eq_some {b : UInt8} {op : EslOpCode} :
    EslOpCode.ofByte? b = some op ↔ b = op.toByte := by
  constructor
  · intro h
    have hb : (ofByte? b).all fun op => b == op.toByte :=
      forall_uint8 (P := fun b => (ofByte? b).all fun op => b == op.toByte) (by decide +kernel) b
    simpa [h] using hb
  · rintro rfl
    cases op <;> decide

lemma EslOpCode.toByte_injective : Function.Injective EslOpCode.toByte := by
  intro op op' h
  have hop : ofByte? op.toByte = some op := ofByte?_eq_some.mpr rfl
  have hop' : ofByte? op.toByte = some op' := ofByte?_eq_some.mpr h
  exact Option.some.inj (hop.symm.trans hop')

/-- `enum ESL_RESP_CODE` -/
inductive EslRespCode
  | err | ledState | basicState | displayState | sensorValueStateMask | vendorSpecificStateMask
  deriving DecidableEq, Repr

def EslRespCode.toByte : EslRespCode → UInt8
  | .err => 0x00
  | .ledState => 0x01
  | .basicState => 0x10
  | .displayState => 0x11
  | .sensorValueStateMask => 0x0E
  | .vendorSpecificStateMask => 0x0F

/-- The codes of `enum ESL_RSP_ERR_CODE` the tag reports. -/
inductive EslRspErrCode
  | invOpcode | invState | invImgIdx | imgNotAvail | invParams | capLimit | retry | queueFull
  | implausibleAbs
  deriving DecidableEq, Repr

def EslRspErrCode.toByte : EslRspErrCode → UInt8
  | .invOpcode => 2
  | .invState => 3
  | .invImgIdx => 4
  | .imgNotAvail => 5
  | .invParams => 6
  | .capLimit => 7
  | .retry => 10
  | .queueFull => 11
  | .implausibleAbs => 12

/-- `OP_VENDOR_SPECIFIC_STATE_MASK` -/
def vendorSpecificStateMask : UInt8 := 0x0F

/-- `enum esl_ecp_command_src` -/
inductive EcpCommandSrc
  | ecp | pawr
  deriving DecidableEq, Repr

/-- `enum BT_ESL_STATE` -/
inductive EslState
  | unassociated | configuring | configured | synchronized | updating | unsynchronized
  deriving DecidableEq, Repr

/-- `enum esl_timeout_mode` -/
inductive EslTimeoutMode
  | unsynced | unassociated
  deriving DecidableEq, Repr

/-- `enum ESL_ACL_SOURCE` -/
inductive EslAclSource
  | notConnected | fromScan | fromPawr
  deriving DecidableEq, Repr

/-! ## Address and keys -/

/-- An ESL address: its ID is never the broadcast ID. -/
structure EslAddr where
  val : UInt16
  id_ne_broadcast : lowByte val ≠ eslAddrBroadcast
  deriving DecidableEq, Repr

/-- The address of an unassociated tag. -/
def EslAddr.unset : EslAddr := ⟨0x8000, by decide⟩

def EslAddr.eslId (a : EslAddr) : UInt8 := lowByte a.val
def EslAddr.groupId (a : EslAddr) : UInt8 := groupIdByte a.val

lemma EslAddr.eslId_ne_broadcast (a : EslAddr) : a.eslId ≠ eslAddrBroadcast := a.id_ne_broadcast

/-- `struct bt_esl_key_material` -/
structure KeyMaterial where
  sessionKey : Vector UInt8 16
  iv : Vector UInt8 8
  deriving DecidableEq, Repr

namespace KeyMaterial

def zero : KeyMaterial := ⟨Vector.replicate 16 0, Vector.replicate 8 0⟩

/-- The other view of the union, `key_v`. -/
def keyV (k : KeyMaterial) : List UInt8 := k.sessionKey.toList ++ k.iv.toList

/-- `memcpy` of `EAD_KEY_MATERIAL_LEN` bytes into `key_v`. -/
def ofKeyV (m : Mem) : KeyMaterial :=
  ⟨Vector.ofFn fun i => m i, Vector.ofFn fun i => m (16 + i)⟩

/-- `sys_mem_swap` of the session key. -/
def swapSessionKey (k : KeyMaterial) : KeyMaterial := { k with sessionKey := k.sessionKey.reverse }

@[simp] lemma length_keyV (k : KeyMaterial) : k.keyV.length = 24 := by simp [keyV]

/-- Swapping twice gives the key back. -/
@[simp] lemma swapSessionKey_swapSessionKey (k : KeyMaterial) :
    k.swapSessionKey.swapSessionKey = k := by
  simp [swapSessionKey]

/-- Reading back the 24 bytes of a key. -/
lemma ofKeyV_keyV (k : KeyMaterial) (beyond : Mem) : ofKeyV (Mem.ofBytes k.keyV beyond) = k := by
  obtain ⟨sk, iv⟩ := k
  simp only [ofKeyV, keyV, KeyMaterial.mk.injEq]
  constructor
  · ext i hi
    have : i < (sk.toList ++ iv.toList).length := by simp; omega
    rw [Vector.getElem_ofFn, Mem.ofBytes_of_lt this, List.getElem_append_left (by simpa using hi)]
    simp
  · ext i hi
    have : i < iv.toList.length := by simpa using hi
    have hoff := Mem.ofBytes_append_right sk.toList iv.toList beyond i
    rw [Vector.length_toList] at hoff
    rw [Vector.getElem_ofFn, hoff, Mem.ofBytes_of_lt this]
    simp

end KeyMaterial

/-! ## Build configuration -/

/-- Kconfig symbols, callbacks registered by the application, and one fact about the Bluetooth
stack.  Display and image support (`CONFIG_BT_ESL_IMAGE_AVAILABLE`) is always there: the command
handler does not compile without it. -/
structure Config where
  displayMax : ℕ
  imageMax : ℕ
  ledMax : ℕ
  sensorMax : ℕ
  vendorSpecificSupport : Bool
  ledIndication : Bool
  condServiceRequired : Bool
  forgetProvisionData : Bool
  simulateDisplay : Bool
  pts : Bool
  unsynchronizedTimeout : ℕ
  unassociatedTimeout : ℕ
  /-- Which optional callbacks of `struct bt_esl_cb` are set. -/
  hasDisplayControl : Bool
  hasDisplayUnassociated : Bool
  hasDisplayAssociated : Bool
  hasSensorControl : Bool
  hasVsCommandHandler : Bool
  hasVsResponseHandler : Bool
  hasDeleteImgs : Bool
  /-- `bt_le_per_adv_sync_delete` of a running sync calls the `term` callback before it returns. -/
  termOnDelete : Bool
  displayMax_le : displayMax ≤ 255
  imageMax_le : imageMax ≤ 255
  ledMax_le : ledMax ≤ 255
  sensorMax_le : sensorMax ≤ 255
  unsynchronizedTimeout_mem : 1 ≤ unsynchronizedTimeout ∧ unsynchronizedTimeout ≤ 3600
  unassociatedTimeout_mem : 1 ≤ unassociatedTimeout ∧ unassociatedTimeout ≤ 3600

/-- The peripheral sample on the nRF54L15 DK. -/
def Config.sample : Config where
  displayMax := 1
  imageMax := 2
  ledMax := 3
  sensorMax := 2
  vendorSpecificSupport := false
  ledIndication := true
  condServiceRequired := false
  forgetProvisionData := false
  simulateDisplay := true
  pts := false
  unsynchronizedTimeout := 3600
  unassociatedTimeout := 3600
  hasDisplayControl := true
  hasDisplayUnassociated := true
  hasDisplayAssociated := true
  hasSensorControl := true
  hasVsCommandHandler := false
  hasVsResponseHandler := false
  hasDeleteImgs := true
  termOnDelete := true
  displayMax_le := by decide
  imageMax_le := by decide
  ledMax_le := by decide
  sensorMax_le := by decide
  unsynchronizedTimeout_mem := by decide
  unassociatedTimeout_mem := by decide

/-- `max_image_index`, an 8-bit `CONFIG_BT_ESL_IMAGE_MAX - 1`. -/
def Config.maxImageIndex (cfg : Config) : UInt8 := UInt8.ofNat cfg.imageMax - 1

/-- `INDICATION_LED_IDX` -/
def Config.indicationLedIdx (cfg : Config) : ℕ := if cfg.ledIndication then cfg.ledMax - 1 else 0

end NrfEsl
