import NrfEsl.Ap.TagStorage

/-!
# The addresses of automatically configured tags

`esl_addr_start` is the address the next tag gets.  It starts at the default address, is moved past
the stored tags when they are loaded, and is moved on by `esl_c_auto_configuring_tag`.
-/

namespace NrfEsl

open KeyValueStore

/-- `CONFIG_ESL_CLIENT_DEFAULT_ESL_ID` and `CONFIG_ESL_CLIENT_DEFAULT_GROUP_ID`, with their ranges. -/
structure AddrConfig where
  defaultEslId : UInt8
  defaultGroupId : UInt8
  defaultEslId_le : defaultEslId.toNat ≤ 0xFE
  defaultGroupId_le : defaultGroupId.toNat ≤ 0x7F

/-- `Kconfig.esl_client` -/
def AddrConfig.default : AddrConfig where
  defaultEslId := 0
  defaultGroupId := 0
  defaultEslId_le := by decide
  defaultGroupId_le := by decide

/-- An address from its two bytes. -/
def addrOfBytes (groupId eslId : UInt8) : UInt16 := (groupId.toUInt16 <<< 8) ||| eslId.toUInt16

/-- `esl_addr_start` after `bt_esl_client_init`. -/
def AddrConfig.initialStart (cfg : AddrConfig) : UInt16 :=
  addrOfBytes cfg.defaultGroupId cfg.defaultEslId

/-- `MAX(esl_addr_start, esl_addr + 1)`, computed as `int` and stored in 16 bits. -/
def maxStart (start eslAddr : UInt16) : UInt16 :=
  UInt16.ofNat (max start.toNat (eslAddr.toNat + 1))

/-- One file of `load_all_tags_in_storage`. -/
def loadAddr (groupId : UInt8) (start eslAddr : UInt16) : UInt16 :=
  let start := maxStart start eslAddr
  -- "Skip if not in group_id"
  if groupId &&& 0x80 = 0 ∨ groupIdByte eslAddr ≠ groupId then start else maxStart start eslAddr

/-- `load_all_tags_in_storage`, as far as `esl_addr_start` goes. -/
def loadAllTagsInStorage (E : Enumeration UInt16 EslFile) (groupId : UInt8) (s : TagStorage)
    (start : UInt16) : UInt16 :=
  E.load (fun start name _ => loadAddr groupId start name) s.esl start

/-- `esl_addr_start` after the start-up of the sample, which loads with the RFU bit set. -/
def startUp (cfg : AddrConfig) (E : Enumeration UInt16 EslFile) (s : TagStorage) : UInt16 :=
  loadAllTagsInStorage E 0x80 s cfg.initialStart

/-- The end of `esl_c_auto_configuring_tag`, after `esl_addr_start` has been handed out. -/
def advanceStart (cfg : AddrConfig) (tagsPerGroup start : UInt16) : UInt16 :=
  let start := start + 1
  if cfg.defaultEslId.toNat + tagsPerGroup.toNat ≤ (lowByte start).toNat then
    addrOfBytes ((groupIdByte start + 1) &&& 0x7F) cfg.defaultEslId
  else start

/-! ## As numbers -/

lemma toNat_groupIdByte (x : UInt16) : (groupIdByte x).toNat = x.toNat / 2 ^ 8 % 2 ^ 7 := by
  have h := x.toNat_lt
  have hmask : (0x7F : UInt16).toNat = 2 ^ 7 - 1 := rfl
  have hbyte : (groupIdByte x).toNat = ((x >>> 8) &&& 0x7F).toNat % 2 ^ 8 := rfl
  have h8 : (8 : UInt16).toNat % 16 = 8 := rfl
  rw [hbyte, UInt16.toNat_and, hmask, Nat.and_two_pow_sub_one_eq_mod, UInt16.toNat_shiftRight, h8,
    Nat.shiftRight_eq_div_pow]
  omega

lemma toNat_addrOfBytes (groupId eslId : UInt8) :
    (addrOfBytes groupId eslId).toNat = eslId.toNat + 2 ^ 8 * groupId.toNat := by
  have hg := groupId.toNat_lt
  have h8 : (8 : UInt16).toNat % 16 = 8 := rfl
  rw [addrOfBytes, UInt16.toNat_or, UInt16.toNat_shiftLeft, UInt8.toNat_toUInt16,
    UInt8.toNat_toUInt16, h8, Nat.shiftLeft_eq, Nat.mod_eq_of_lt (by omega), ← Nat.shiftLeft_eq,
    Nat.or_comm, or_shiftLeft_of_lt eslId.toNat_lt]

lemma toNat_nextGroup (g : UInt8) : ((g + 1) &&& 0x7F).toNat = (g.toNat + 1) % 2 ^ 7 :=
  forall_uint8 (P := fun g => ((g + 1) &&& 0x7F).toNat = (g.toNat + 1) % 2 ^ 7)
    (by decide +kernel) g

/-- An address whose ID is not the last one has a successor. -/
lemma toNat_add_one_of_low {start : UInt16} (hlow : start.toNat % 2 ^ 8 < 255) :
    (start + 1).toNat = start.toNat + 1 := by
  have hstart := start.toNat_lt
  have hone : (1 : UInt16).toNat = 1 := rfl
  rw [UInt16.toNat_add, hone]
  omega

/-- Inside a group the address is counted up. -/
lemma toNat_advanceStart_of_lt {cfg : AddrConfig} {tagsPerGroup start : UInt16}
    (hlow : start.toNat % 2 ^ 8 < 255)
    (h : start.toNat % 2 ^ 8 + 1 < cfg.defaultEslId.toNat + tagsPerGroup.toNat) :
    (advanceStart cfg tagsPerGroup start).toNat = start.toNat + 1 := by
  have hadd := toNat_add_one_of_low hlow
  rw [advanceStart, if_neg, hadd]
  rw [toNat_lowByte, hadd]
  omega

/-- At the end of a group the next group begins. -/
lemma toNat_advanceStart_of_eq {cfg : AddrConfig} {tagsPerGroup start : UInt16}
    (hlow : start.toNat % 2 ^ 8 < 255)
    (h : start.toNat % 2 ^ 8 + 1 = cfg.defaultEslId.toNat + tagsPerGroup.toNat) :
    (advanceStart cfg tagsPerGroup start).toNat
      = cfg.defaultEslId.toNat + 2 ^ 8 * ((start.toNat / 2 ^ 8 + 1) % 2 ^ 7) := by
  have hadd := toNat_add_one_of_low hlow
  rw [advanceStart, if_pos, toNat_addrOfBytes, toNat_nextGroup, toNat_groupIdByte, hadd]
  · omega
  · rw [toNat_lowByte, hadd]
    omega

/-- What a file does to `esl_addr_start`, whichever way it goes. -/
lemma loadAddr_eq (groupId : UInt8) (start eslAddr : UInt16) :
    loadAddr groupId start eslAddr = maxStart start eslAddr := by
  have hidem : maxStart (maxStart start eslAddr) eslAddr = maxStart start eslAddr := by
    have hs := start.toNat_lt
    have ha := eslAddr.toNat_lt
    apply UInt16.toNat_inj.mp
    simp only [maxStart, UInt16.toNat_ofNat']
    omega
  rw [loadAddr, hidem, ite_self]

end NrfEsl
