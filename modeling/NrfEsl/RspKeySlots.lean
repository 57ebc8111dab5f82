import NrfEsl.Ap.RspKeys
import NrfEsl.TagRecord

/-!
# Keys in their slots

The slot of a tag is the difference of its ESL ID and `CONFIG_ESL_CLIENT_DEFAULT_ESL_ID`.

* **Recorded** after a configuration, a key goes there unless the difference wraps around, or the quota of
  tags lets it through where there is no slot: `rspKeyRecord_iff`.  `forall_recordsInSlot_iff` is for which
  quotas that happens to no address.
* **Loaded** from the database no key goes anywhere.  The filter asks for a group with the RFU bit that
  is the group of an address, which has none: `skipsAddr`.
-/

namespace NrfEsl

open FileSession TagFiles

/-- The ID of an address, less the default one. -/
def idOffset (acfg : AddrConfig) (eslAddr : UInt16) : ℤ :=
  (lowByte eslAddr).toNat - acfg.defaultEslId.toNat

/-! ## Recorded keys -/

section Record

variable {cfg : ApConfig} {acfg : AddrConfig} {tagsPerGroup eslAddr : UInt16}

/-- **A key is recorded in its slot**, which is there, or not at all. -/
def RecordsInSlot (cfg : ApConfig) (acfg : AddrConfig) (tagsPerGroup eslAddr : UInt16) : Prop :=
  ∀ p, rspKeyTarget acfg tagsPerGroup eslAddr = some p →
    p.1 = (groupIdByte eslAddr).toNat ∧ p.2 = idOffset acfg eslAddr
      ∧ p.2 < cfg.maxResponseSlotBuffer ∧ p.1 < cfg.maxGroup

/-- The slot of the address is there. -/
def HasSlot (cfg : ApConfig) (acfg : AddrConfig) (eslAddr : UInt16) : Prop :=
  0 ≤ idOffset acfg eslAddr ∧ idOffset acfg eslAddr < cfg.maxResponseSlotBuffer
    ∧ (groupIdByte eslAddr).toNat < cfg.maxGroup

/-- The difference is above the quota, in 8 bits. -/
def AboveQuota (acfg : AddrConfig) (tagsPerGroup eslAddr : UInt16) : Prop :=
  (tagsPerGroup.toNat : ℤ) < idOffset acfg eslAddr % 256

variable (acfg eslAddr) in
/-- The 8-bit difference. -/
lemma toNat_idOffset : ((lowByte eslAddr - acfg.defaultEslId).toNat : ℤ) = idOffset acfg eslAddr % 256 := by
  have hid := (lowByte eslAddr).toNat_lt
  have hdefault := acfg.defaultEslId.toNat_lt
  rw [UInt8.toNat_sub, idOffset]
  omega

lemma rspKeyTarget_of_aboveQuota (h : AboveQuota acfg tagsPerGroup eslAddr) :
    rspKeyTarget acfg tagsPerGroup eslAddr = none := by
  have hoffset := toNat_idOffset acfg eslAddr
  rw [AboveQuota] at h
  exact if_neg (by omega)

lemma rspKeyTarget_of_not_aboveQuota (h : ¬ AboveQuota acfg tagsPerGroup eslAddr) :
    rspKeyTarget acfg tagsPerGroup eslAddr
      = some ((groupIdByte eslAddr).toNat, (lowByte eslAddr - acfg.defaultEslId).toNat) := by
  have hoffset := toNat_idOffset acfg eslAddr
  rw [AboveQuota] at h
  exact if_pos (by omega)

/-- **When a key is recorded in its slot.** -/
lemma recordsInSlot_iff :
    RecordsInSlot cfg acfg tagsPerGroup eslAddr
      ↔ AboveQuota acfg tagsPerGroup eslAddr ∨ HasSlot cfg acfg eslAddr := by
  have hoffset := toNat_idOffset acfg eslAddr
  have hid := (lowByte eslAddr).toNat_lt
  have hrange : idOffset acfg eslAddr < 256 := by
    rw [idOffset]
    omega
  by_cases h : AboveQuota acfg tagsPerGroup eslAddr
  · refine iff_of_true ?_ (.inl h)
    rintro p hp
    rw [rspKeyTarget_of_aboveQuota h] at hp
    cases hp
  · rw [RecordsInSlot, rspKeyTarget_of_not_aboveQuota h]
    constructor
    · intro hall
      obtain ⟨-, hslot, hlt, hgroup⟩ := hall _ rfl
      dsimp only at hslot hlt hgroup
      exact .inr ⟨by omega, by omega, hgroup⟩
    · rintro (habove | ⟨hzero, hlt, hgroup⟩) p hp
      · exact absurd habove h
      · cases hp
        have hmod : idOffset acfg eslAddr % 256 = idOffset acfg eslAddr := Int.emod_eq_of_lt hzero hrange
        rw [hmod] at hoffset
        exact ⟨rfl, hoffset, by dsimp only; omega, hgroup⟩

lemma toNat_groupIdByte_addrOfBytes (g id : UInt8) (hg : g.toNat < 2 ^ 7) :
    (groupIdByte (addrOfBytes g id)).toNat = g.toNat := by
  have hid := id.toNat_lt
  rw [toNat_groupIdByte, toNat_addrOfBytes]
  omega

lemma idOffset_addrOfBytes (g id : UInt8) :
    idOffset acfg (addrOfBytes g id) = id.toNat - acfg.defaultEslId.toNat := by
  have hid := id.toNat_lt
  rw [idOffset, toNat_lowByte, toNat_addrOfBytes]
  omega

/-- **The quotas for which no address goes wrong**: below the number of slots, and too small for an ID
below the default one; and every group must have a buffer. -/
theorem forall_recordsInSlot_iff :
    (∀ eslAddr, RecordsInSlot cfg acfg tagsPerGroup eslAddr) ↔
      cfg.maxGroup = 128 ∧ tagsPerGroup.toNat < cfg.maxResponseSlotBuffer
        ∧ (acfg.defaultEslId = 0 ∨ tagsPerGroup.toNat + acfg.defaultEslId.toNat < 256) := by
  have hmaxGroup := cfg.maxGroup_mem.2
  have hmaxSlot := cfg.maxResponseSlotBuffer_mem.2
  have hdefault := acfg.defaultEslId.toNat_lt
  -- The address whose difference is `n`, in the last group.
  have haddr : ∀ n < 256, ∃ eslAddr, (groupIdByte eslAddr).toNat = 127
      ∧ idOffset acfg eslAddr = ((acfg.defaultEslId.toNat + n) % 256 : ℕ) - acfg.defaultEslId.toNat := by
    intro n hn
    have hid : (UInt8.ofNat (acfg.defaultEslId.toNat + n)).toNat = (acfg.defaultEslId.toNat + n) % 256 :=
      UInt8.toNat_ofNat'
    refine ⟨addrOfBytes 127 (UInt8.ofNat (acfg.defaultEslId.toNat + n)), ?_, ?_⟩
    · exact toNat_groupIdByte_addrOfBytes _ _ (by decide)
    · rw [idOffset_addrOfBytes, hid]
  constructor
  · intro h
    have hslot : ∀ n < 256, n ≤ tagsPerGroup.toNat →
        acfg.defaultEslId.toNat + n < 256 ∧ n < cfg.maxResponseSlotBuffer ∧ 127 < cfg.maxGroup := by
      intro n hn hquota
      obtain ⟨eslAddr, hgroup, hoffset⟩ := haddr n hn
      rcases recordsInSlot_iff.mp (h eslAddr) with habove | ⟨hzero, hlt, hgroupLt⟩
      · rw [AboveQuota, hoffset] at habove
        omega
      · rw [hoffset] at hzero hlt
        omega
    have hmax : 127 < cfg.maxGroup := (hslot 0 (by decide) (Nat.zero_le _)).2.2
    have hquota : tagsPerGroup.toNat < cfg.maxResponseSlotBuffer := by
      by_contra hnot
      have hlt := (hslot cfg.maxResponseSlotBuffer (by omega) (by omega)).2.1
      omega
    have hwrap := (hslot tagsPerGroup.toNat (by omega) (Nat.le_refl _)).1
    exact ⟨by omega, hquota, .inr (by omega)⟩
  · rintro ⟨hmax, hquota, hwrap⟩ eslAddr
    refine recordsInSlot_iff.mpr ?_
    have hgroup : (groupIdByte eslAddr).toNat < 128 := by
      rw [toNat_groupIdByte]
      omega
    have hid := (lowByte eslAddr).toNat_lt
    by_cases habove : AboveQuota acfg tagsPerGroup eslAddr
    · exact .inl habove
    · right
      rw [AboveQuota] at habove
      have hnonneg : 0 ≤ idOffset acfg eslAddr := by
        rcases hwrap with hzero | hlt
        · have hdefaultZero : acfg.defaultEslId.toNat = 0 := by rw [hzero]; rfl
          rw [idOffset]
          omega
        · rw [idOffset] at habove ⊢
          omega
      have hrange : idOffset acfg eslAddr < 256 := by
        rw [idOffset]
        omega
      exact ⟨hnonneg, by omega, by omega⟩

end Record

/-- **The response key of a tag is recorded in its slot** exactly if the 8-bit difference is above the quota,
in which case nothing is recorded, or the slot is there. -/
theorem rspKeyRecord_iff (cfg : ApConfig) (acfg : AddrConfig) (tagsPerGroup eslAddr : UInt16)
    (rand eslRspKey : KeyMaterial) (syncBuf : ℕ → SyncBuffer) :
    let r := eslCRspKeyRecord cfg acfg tagsPerGroup eslAddr rand eslRspKey syncBuf
    (RecordsInSlot cfg acfg tagsPerGroup eslAddr
        ↔ AboveQuota acfg tagsPerGroup eslAddr ∨ HasSlot cfg acfg eslAddr)
      ∧ (∀ p, rspKeyTarget acfg tagsPerGroup eslAddr = some p →
        ((r.val p.1).rspBuffer p.2).rspKey = (eslCRspKeyUpdate rand eslRspKey).1
          ∧ (r.InBounds ↔ p.1 < cfg.maxGroup ∧ p.2 < cfg.maxResponseSlotBuffer))
      ∧ ∀ g i, rspKeyTarget acfg tagsPerGroup eslAddr ≠ some (g, i) →
        (r.val g).rspBuffer i = (syncBuf g).rspBuffer i := by
  intro r
  refine ⟨recordsInSlot_iff, fun p hp => ?_, fun g i hgi => ?_⟩
  · have hr : r = copyRspKey cfg p.1 p.2 (eslCRspKeyUpdate rand eslRspKey).1.keyV syncBuf := by
      show eslCRspKeyRecord cfg acfg tagsPerGroup eslAddr rand eslRspKey syncBuf = _
      rw [eslCRspKeyRecord, hp]
    rw [hr]
    exact ⟨rspKey_copyRspKey _, inBounds_copyRspKey⟩
  · show ((eslCRspKeyRecord cfg acfg tagsPerGroup eslAddr rand eslRspKey syncBuf).val g).rspBuffer i = _
    cases hp : rspKeyTarget acfg tagsPerGroup eslAddr with
    | none =>
        rw [eslCRspKeyRecord, hp]
        rfl
    | some p =>
        rw [eslCRspKeyRecord, hp]
        refine rspBuffer_copyRspKey_of_ne ?_
        rintro ⟨rfl, rfl⟩
        exact hgi hp

/-- Eight slots and a quota of eight: ID 8 is let through.  Default ID 1 and any quota from 255 on: ID 0 is
let through, with slot 255. -/
theorem not_recordsInSlot :
    ¬ RecordsInSlot .default .default 8 0x0008
      ∧ ¬ RecordsInSlot .default ⟨1, 0, by decide, by decide⟩ 255 0x0000 := by
  constructor
  · intro h
    obtain ⟨-, -, hlt, -⟩ := h (0, 8) (by decide)
    exact absurd hlt (by decide)
  · intro h
    obtain ⟨-, -, hlt, -⟩ := h (0, 255) (by decide)
    exact absurd hlt (by decide)

/-! ## Loaded keys -/

section Load

variable {cfg : ApConfig} {acfg : AddrConfig} {groupId : UInt8}

/-- A group has no RFU bit. -/
lemma toNat_groupIdByte_lt (eslAddr : UInt16) : (groupIdByte eslAddr).toNat < 2 ^ 7 := by
  rw [toNat_groupIdByte]
  exact Nat.mod_lt _ (by decide)

/-- **The filter lets nothing through.** -/
lemma skipsAddr (groupId : UInt8) (eslAddr : UInt16) : SkipsAddr groupId eslAddr := by
  have hbit : ∀ g : UInt8, g &&& 0x80 = 0 ∨ 2 ^ 7 ≤ g.toNat :=
    forall_uint8 (P := fun g => g &&& 0x80 = 0 ∨ 2 ^ 7 ≤ g.toNat) (by decide +kernel)
  rcases hbit groupId with hzero | hge
  · exact .inl hzero
  · right
    rintro rfl
    have hlt := toNat_groupIdByte_lt eslAddr
    omega

/-- An entry moves `esl_addr_start`, if it is a file, and nothing else. -/
lemma loadTagKey_eq (s : KeyLoad) (entry : TagDirEntry) :
    loadTagKey cfg acfg groupId s entry = pure (if entry.isFile = false then s
      else { s with eslAddrStart := maxStart s.eslAddrStart (eslAddrOfName entry.name) }) := by
  unfold loadTagKey
  split
  · rfl
  · rw [if_pos (skipsAddr _ _)]

variable (cfg acfg groupId) in
/-- **No key is loaded**, and no slot written. -/
lemma loadAllTagKeys_syncBuf (entries : List TagDirEntry) (s : KeyLoad) :
    (loadAllTagKeys cfg acfg groupId entries s).val.syncBuf = s.syncBuf
      ∧ (loadAllTagKeys cfg acfg groupId entries s).InBounds := by
  induction entries generalizing s with
  | nil => exact ⟨rfl, Traced.inBounds_pure _⟩
  | cons entry entries ih =>
      rw [loadAllTagKeys, loadTagKey_eq, Traced.val_bind, Traced.inBounds_bind, Traced.val_pure]
      obtain ⟨hsyncBuf, hbounds⟩ :=
        ih (if entry.isFile = false then s
          else { s with eslAddrStart := maxStart s.eslAddrStart (eslAddrOfName entry.name) })
      refine ⟨hsyncBuf.trans ?_, Traced.inBounds_pure _, hbounds⟩
      split
      · rfl
      · rfl

/-- The key of a stored tag is to be loaded. -/
def ToLoad (cfg : ApConfig) (acfg : AddrConfig) (groupId : UInt8) (eslAddr : UInt16) : Prop :=
  (groupId &&& 0x80 ≠ 0 ∨ groupIdByte eslAddr = groupId)
    ∧ 0 ≤ idOffset acfg eslAddr ∧ idOffset acfg eslAddr < cfg.maxResponseSlotBuffer

/-- The slot of a tag is there and holds its key. -/
def HoldsKey (cfg : ApConfig) (acfg : AddrConfig) (syncBuf : ℕ → SyncBuffer) (tag : EslChrcData) : Prop :=
  (groupIdByte tag.eslAddr).toNat < cfg.maxGroup
    ∧ ((syncBuf (groupIdByte tag.eslAddr).toNat).rspBuffer (idOffset acfg tag.eslAddr).toNat).rspKey
      = tag.eslRspKey

/-- **The keys of a group are loaded**: those of its tags, and nothing else. -/
structure GroupLoaded (cfg : ApConfig) (acfg : AddrConfig) (groupId : UInt8) (tags : List EslChrcData)
    (before : ℕ → SyncBuffer) (r : Traced KeyLoad) : Prop where
  loaded : ∀ tag ∈ tags, ToLoad cfg acfg groupId tag.eslAddr → HoldsKey cfg acfg r.val.syncBuf tag
  others : ∀ g i, (∀ tag ∈ tags, ToLoad cfg acfg groupId tag.eslAddr →
      ¬ (g = (groupIdByte tag.eslAddr).toNat ∧ i = (idOffset acfg tag.eslAddr).toNat)) →
    (r.val.syncBuf g).rspBuffer i = (before g).rspBuffer i
  inBounds : r.InBounds

/-- The files of some tags, with the calls that fail. -/
def tagDir (faults : EslChrcData → Faults) (tags : List EslChrcData) : List TagDirEntry :=
  tags.map fun tag => .ofTag (faults tag) tag

/-- A name is read back as its address. -/
lemma eslAddrOfName_eslAddrToStr (eslAddr : UInt16) : eslAddrOfName (eslAddrToStr eslAddr) = eslAddr := by
  have hx := eslAddr.toNat_lt
  rw [eslAddrOfName, Text.strtol_of_number? (number?_eslAddrToStr eslAddr) (by omega)]
  have hmod : ((eslAddr.toNat : ℤ) % 2 ^ 16).toNat = eslAddr.toNat := by omega
  rw [UInt16.ofInt, hmod]
  exact UInt16.ofNat_toNat

/-- `esl_addr_start` is moved as `loadAddr` says. -/
lemma eslAddrStart_loadAllTagKeys (faults : EslChrcData → Faults) (tags : List EslChrcData) (s : KeyLoad) :
    (loadAllTagKeys cfg acfg groupId (tagDir faults tags) s).val.eslAddrStart
      = (tags.map (·.eslAddr)).foldl (loadAddr groupId) s.eslAddrStart := by
  induction tags generalizing s with
  | nil => rfl
  | cons tag tags ih =>
      have hname : eslAddrOfName (TagDirEntry.ofTag (faults tag) tag).name = tag.eslAddr :=
        eslAddrOfName_eslAddrToStr _
      have hfile : ¬ (TagDirEntry.ofTag (faults tag) tag).isFile = false := by
        rintro ⟨⟩
      rw [tagDir, List.map_cons, loadAllTagKeys, loadTagKey_eq, if_neg hfile, hname, Traced.val_bind,
        Traced.val_pure]
      refine (ih _).trans ?_
      rw [List.map_cons, List.foldl_cons, loadAddr_eq]

end Load

/-- **`load_all_tags_in_storage` has loaded a group** exactly if there was nothing to load: the slot of every
tag in question held its key before. -/
theorem loadAllTagKeys_iff (cfg : ApConfig) (acfg : AddrConfig) (groupId : UInt8) (tags : List EslChrcData)
    (faults : EslChrcData → Faults) (s : KeyLoad) :
    GroupLoaded cfg acfg groupId tags s.syncBuf
        (loadAllTagKeys cfg acfg groupId (tagDir faults tags) s)
      ↔ ∀ tag ∈ tags, ToLoad cfg acfg groupId tag.eslAddr → HoldsKey cfg acfg s.syncBuf tag := by
  obtain ⟨hsyncBuf, hbounds⟩ := loadAllTagKeys_syncBuf cfg acfg groupId (tagDir faults tags) s
  constructor
  · intro h tag htag hload
    have hheld := h.loaded tag htag hload
    rw [hsyncBuf] at hheld
    exact hheld
  · intro h
    refine ⟨fun tag htag hload => ?_, fun g i _ => ?_, hbounds⟩
    · rw [hsyncBuf]
      exact h tag htag hload
    · rw [hsyncBuf]

/-- A tag with address 0, and slots that hold nothing. -/
theorem not_groupLoaded :
    let key : KeyMaterial := ⟨Vector.replicate 16 1, Vector.replicate 8 1⟩
    let tag := { EslChrcData.zero with eslRspKey := key }
    let syncBuf : ℕ → SyncBuffer := fun _ => ⟨fun _ => 0, 0, .empty, fun _ => ⟨.zero, fun _ => 0, 0, 0, .empty⟩⟩
    ¬ GroupLoaded .default .default 0 [tag] syncBuf
        (loadAllTagKeys .default .default 0 (tagDir (fun _ => .none) [tag]) ⟨syncBuf, 0⟩)
      ∧ ¬ GroupLoaded .default .default 0x80 [tag] syncBuf
        (loadAllTagKeys .default .default 0x80 (tagDir (fun _ => .none) [tag]) ⟨syncBuf, 0⟩) := by
  intro key tag syncBuf
  constructor
  · intro h
    have hheld := (h.loaded tag List.mem_cons_self ⟨.inr (by decide), by decide, by decide⟩).2
    rw [(loadAllTagKeys_syncBuf _ _ _ _ _).1] at hheld
    exact absurd hheld (by decide)
  · intro h
    have hheld := (h.loaded tag List.mem_cons_self ⟨.inl (by decide), by decide, by decide⟩).2
    rw [(loadAllTagKeys_syncBuf _ _ _ _ _).1] at hheld
    exact absurd hheld (by decide)

end NrfEsl
