import NrfEsl.Ap.AutoConfig
import NrfEsl.Ap.State
import NrfEsl.Ap.TagFiles

/-!
# Where the access point keeps the response keys

A response is decrypted with the key of the slot it comes in, `sync_buf[group].rsp_buffer[slot].rsp_key`.
Two functions write such a key:

* `esl_c_rsp_key_update`, at its end and with auto mode only, the key it has given to a tag;
* `load_all_tags_in_storage`, the keys of the tags in the database, in the order in which `fs_readdir` lists
  their files.

Both compute the slot from the ESL address, each in its own way.
-/

namespace NrfEsl

open FileSession TagFiles

/-- `memcpy` or `fs_read` into the key of a slot. -/
def copyRspKey (cfg : ApConfig) (groupId slot : ℕ) (got : List UInt8) (syncBuf : ℕ → SyncBuffer) :
    Traced (ℕ → SyncBuffer) := do
  Traced.access (.index cfg.maxGroup groupId)
  Traced.access (.index cfg.maxResponseSlotBuffer slot)
  let rspBuffer := (syncBuf groupId).rspBuffer
  pure (Function.update syncBuf groupId
    { syncBuf groupId with
      rspBuffer := Function.update rspBuffer slot
        { rspBuffer slot with rspKey := readKey (rspBuffer slot).rspKey got } })

section Copy

variable {cfg : ApConfig} {groupId slot : ℕ} {got : List UInt8} {syncBuf : ℕ → SyncBuffer}

lemma inBounds_copyRspKey :
    (copyRspKey cfg groupId slot got syncBuf).InBounds
      ↔ groupId < cfg.maxGroup ∧ slot < cfg.maxResponseSlotBuffer := by
  simp [copyRspKey, Access.Touches, Access.Safe]

lemma rspKey_copyRspKey (key : KeyMaterial) :
    ((((copyRspKey cfg groupId slot key.keyV syncBuf).val groupId).rspBuffer slot).rspKey) = key := by
  show ((Function.update syncBuf groupId _ groupId).rspBuffer slot).rspKey = key
  rw [Function.update_self]
  dsimp only
  rw [Function.update_self, readKey, Mem.write_zero, KeyMaterial.ofKeyV_keyV]

/-- Every other slot stays as it is. -/
lemma rspBuffer_copyRspKey_of_ne {g i : ℕ} (h : ¬ (g = groupId ∧ i = slot)) :
    ((copyRspKey cfg groupId slot got syncBuf).val g).rspBuffer i = (syncBuf g).rspBuffer i := by
  show (Function.update syncBuf groupId _ g).rspBuffer i = _
  by_cases hg : g = groupId
  · subst hg
    have hi : i ≠ slot := fun hi => h ⟨rfl, hi⟩
    rw [Function.update_self]
    exact Function.update_of_ne hi _ _
  · rw [Function.update_of_ne hg]

end Copy

/-! ## `esl_c_rsp_key_update` -/

/-- The group and the slot of the `memcpy` at the end, if it is made.  The offset is an 8-bit difference. -/
def rspKeyTarget (acfg : AddrConfig) (tagsPerGroup eslAddr : UInt16) : Option (ℕ × ℕ) :=
  let eslIdOffset := lowByte eslAddr - acfg.defaultEslId
  if eslIdOffset.toNat ≤ tagsPerGroup.toNat then some ((groupIdByte eslAddr).toNat, eslIdOffset.toNat)
  else none

/-- The sync buffers after `esl_c_rsp_key_update` of a tag with this address and key. -/
def eslCRspKeyRecord (cfg : ApConfig) (acfg : AddrConfig) (tagsPerGroup eslAddr : UInt16)
    (rand eslRspKey : KeyMaterial) (syncBuf : ℕ → SyncBuffer) : Traced (ℕ → SyncBuffer) :=
  match rspKeyTarget acfg tagsPerGroup eslAddr with
  | some p => copyRspKey cfg p.1 p.2 (eslCRspKeyUpdate rand eslRspKey).1.keyV syncBuf
  | none => pure syncBuf

/-! ## `load_all_tags_in_storage` -/

/-- An entry that `fs_readdir` delivers, its file, and the calls for it that fail. -/
structure TagDirEntry where
  name : List Char
  isFile : Bool
  data : List UInt8
  faults : Faults

/-- What the loop writes. -/
structure KeyLoad where
  syncBuf : ℕ → SyncBuffer
  eslAddrStart : UInt16

/-- `strtol(entry.name, NULL, 16)` in 16 bits. -/
def eslAddrOfName (name : List Char) : UInt16 := UInt16.ofInt (Text.strtol 16 name)

/-- `MIN(LOW_BYTE(esl_addr) - CONFIG_ESL_CLIENT_DEFAULT_ESL_ID, 0)` in 8 bits. -/
def loadIdOffset (acfg : AddrConfig) (eslAddr : UInt16) : UInt8 :=
  UInt8.ofInt (min ((lowByte eslAddr).toNat - acfg.defaultEslId.toNat : ℤ) 0)

/-- `fs_seek` and `fs_read`, also when the file has not been opened. -/
def readStoredKey (f : Faults) (data : List UInt8) : List UInt8 :=
  if f.opened.val < 0 then []
  else (((Stream.start data).seek f 7).read f 24).1

/-- "Skip if not in group_id" -/
def SkipsAddr (groupId : UInt8) (eslAddr : UInt16) : Prop :=
  groupId &&& 0x80 = 0 ∨ groupIdByte eslAddr ≠ groupId

instance (groupId : UInt8) (eslAddr : UInt16) : Decidable (SkipsAddr groupId eslAddr) :=
  inferInstanceAs (Decidable (_ ∨ _))

/-- One entry. -/
def loadTagKey (cfg : ApConfig) (acfg : AddrConfig) (groupId : UInt8) (s : KeyLoad)
    (entry : TagDirEntry) : Traced KeyLoad :=
  if entry.isFile = false then pure s
  else
    let eslAddr := eslAddrOfName entry.name
    let s := { s with eslAddrStart := maxStart s.eslAddrStart eslAddr }
    if SkipsAddr groupId eslAddr then pure s
    else do
      let syncBuf ← copyRspKey cfg (groupIdByte eslAddr).toNat (loadIdOffset acfg eslAddr).toNat
        (readStoredKey entry.faults entry.data) s.syncBuf
      pure ⟨syncBuf, maxStart s.eslAddrStart eslAddr⟩

/-- `load_all_tags_in_storage` over what `fs_readdir` delivers until it ends or fails. -/
def loadAllTagKeys (cfg : ApConfig) (acfg : AddrConfig) (groupId : UInt8) :
    List TagDirEntry → KeyLoad → Traced KeyLoad
  | [], s => pure s
  | entry :: entries, s => do
      let s ← loadTagKey cfg acfg groupId s entry
      loadAllTagKeys cfg acfg groupId entries s

/-- The file that `save_tag_in_storage` leaves in the directory of ESL addresses. -/
def TagDirEntry.ofTag (faults : Faults) (tag : EslChrcData) : TagDirEntry where
  name := eslAddrToStr tag.eslAddr
  isFile := true
  data := (eslChunks tag).flatten
  faults := faults

end NrfEsl
