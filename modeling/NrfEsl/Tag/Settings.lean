import NrfEsl.Lib.KeyValueStore
import NrfEsl.Tag.Provision

/-!
# Provisioned data in the flash of a tag

`esl_settings.c`, byte for byte: under which names the four values are saved, how long they are, and
what the handler makes of an entry when the settings are loaded.  The rest of the tag has `Settings`
instead, the values themselves; `storedSettings` is what the flash holds of them.

* **`eslSettingsSet`** — the handler, with its dispatch on the name and the length check of each name.
* **`settingsLoadSubtree_eq`** — loading the flash, in whatever order the backend lists it, is
  restoring `storedSettings`.
* **`storedSettings_addrSave`** and its like — a save changes one of the values, a delete clears them.
-/

namespace NrfEsl

open KeyValueStore

/-! ## Names and values -/

/-- A settings name, split at its slashes. -/
abbrev SettingsName := List String

/-- The settings partition. -/
abbrev Flash := KeyValueStore SettingsName (List UInt8)

def eslAddrName : SettingsName := ["esl", "esl_addr"]
def eslApKeyName : SettingsName := ["esl", "esl_ap_key"]
def eslRspKeyName : SettingsName := ["esl", "esl_rsp_key"]
def eslAbsTimeName : SettingsName := ["esl", "esl_abs_time"]

/-- `EAD_KEY_MATERIAL_LEN` -/
def eadKeyMaterialLen : ℕ := 24

/-- The bytes of an address in RAM, least significant first. -/
def EslAddr.toStored (addr : EslAddr) : List UInt8 := [lowByte addr.val, highByte addr.val]

/-- The address read back from its bytes.  None with the broadcast ID is ever saved, and the type has
no place for one. -/
def EslAddr.ofStored? (value : List UInt8) : Option EslAddr :=
  let addr := sysGetLe16 (Mem.ofBytes value fun _ => 0) 0
  if h : lowByte addr = eslAddrBroadcast then none else some ⟨addr, h⟩

/-- Key material read back from its bytes. -/
def KeyMaterial.ofStored (value : List UInt8) : KeyMaterial :=
  KeyMaterial.ofKeyV (Mem.ofBytes value fun _ => 0)

/-! ## The module -/

/-- `settings_save_one` -/
def settingsSaveOne (name : SettingsName) (value : List UInt8) (flash : Flash) : Flash :=
  flash.insert name value

/-- `settings_delete` -/
def settingsDelete (name : SettingsName) (flash : Flash) : Flash := flash.erase name

/-- What `esl_settings_set` returns when it does not take an entry. -/
inductive SettingsError
  | einval | enoent
  deriving DecidableEq, Repr

namespace EslTag

/-- `esl_settings_set` -/
def eslSettingsSet (name : SettingsName) (value : List UInt8) (t : EslTag) :
    Except SettingsError Unit × EslTag :=
  if name = ["esl_addr"] then
    if value.length ≠ 2 then (.error .einval, t)
    else
      match EslAddr.ofStored? value with
      | none => (.error .enoent, t)
      | some addr =>
          (.ok (), { t with assoc.eslAddr := addr, assoc.configuringState.addrSet := true })
  else if name = ["esl_ap_key"] then
    if value.length ≠ eadKeyMaterialLen then (.error .einval, t)
    else
      (.ok (), { t with
        assoc.eslApKey := .ofStored value
        assoc.configuringState.apSyncKeySet := true })
  else if name = ["esl_rsp_key"] then
    if value.length ≠ eadKeyMaterialLen then (.error .einval, t)
    else
      (.ok (), { t with
        assoc.eslRspKey := .ofStored value
        assoc.configuringState.responseKeySet := true })
  else if name = ["esl_abs_time"] then
    if value.length ≠ 1 then (.error .einval, t)
    else (.ok (), { t with assoc.configuringState.absTimeSet := true })
  else (.error .enoent, t)

/-- The settings subsystem hands an entry below `esl/` to the handler. -/
def callSetHandler (t : EslTag) (name : SettingsName) (value : List UInt8) : EslTag :=
  if name.head? = some "esl" then (t.eslSettingsSet name.tail value).2 else t

/-- `settings_load_subtree("esl")` -/
def settingsLoadSubtree (E : Enumeration SettingsName (List UInt8)) (flash : Flash) (t : EslTag) :
    EslTag :=
  E.load callSetHandler flash t

/-- `esl_settings_addr_save` -/
def eslSettingsAddrSave (t : EslTag) : Flash → Flash :=
  settingsSaveOne eslAddrName t.assoc.eslAddr.toStored

/-- `esl_settings_ap_key_save` -/
def eslSettingsApKeySave (t : EslTag) : Flash → Flash :=
  settingsSaveOne eslApKeyName t.assoc.eslApKey.keyV

/-- `esl_settings_rsp_key_save` -/
def eslSettingsRspKeySave (t : EslTag) : Flash → Flash :=
  settingsSaveOne eslRspKeyName t.assoc.eslRspKey.keyV

end EslTag

/-- `esl_settings_abs_save` -/
def eslSettingsAbsSave : Flash → Flash := settingsSaveOne eslAbsTimeName [1]

/-- The part of `esl_settings_delete_provisioned_data` that reaches the flash. -/
def flashDeleteProvisionedData (flash : Flash) : Flash :=
  settingsDelete eslAbsTimeName <| settingsDelete eslRspKeyName <|
    settingsDelete eslApKeyName <| settingsDelete eslAddrName flash

/-! ## What the flash holds -/

/-- The value of a key of the store, if it has the length the handler asks for. -/
def Flash.value? (name : SettingsName) (len : ℕ) (flash : Flash) : Option (List UInt8) :=
  (flash.lookup name).filter fun value => decide (value.length = len)

/-- The four values of the flash. -/
def storedSettings (flash : Flash) : Settings where
  eslAddr := (Flash.value? eslAddrName 2 flash).bind EslAddr.ofStored?
  eslApKey := (Flash.value? eslApKeyName eadKeyMaterialLen flash).map .ofStored
  eslRspKey := (Flash.value? eslRspKeyName eadKeyMaterialLen flash).map .ofStored
  eslAbsTime := (Flash.value? eslAbsTimeName 1 flash).isSome

/-! ### Names, sizes and byte order agree -/

section Values

variable {flash : Flash}

lemma EslAddr.ofStored?_toStored (addr : EslAddr) : EslAddr.ofStored? addr.toStored = some addr := by
  have hval : sysGetLe16 (Mem.ofBytes addr.toStored fun _ => 0) 0 = addr.val :=
    sysGetLe16_bytes addr.val _
  simp only [EslAddr.ofStored?, hval, dif_neg addr.id_ne_broadcast]

lemma KeyMaterial.ofStored_keyV (key : KeyMaterial) : KeyMaterial.ofStored key.keyV = key :=
  KeyMaterial.ofKeyV_keyV key _

lemma value?_saveOne {name : SettingsName} {value : List UInt8} {len : ℕ} (h : value.length = len) :
    Flash.value? name len (settingsSaveOne name value flash) = some value := by
  rw [Flash.value?, settingsSaveOne, AList.lookup_insert, Option.filter_some, if_pos (by simpa)]

lemma value?_saveOne_of_ne {name name' : SettingsName} {value : List UInt8} {len : ℕ}
    (h : name ≠ name') :
    Flash.value? name len (settingsSaveOne name' value flash) = Flash.value? name len flash := by
  rw [Flash.value?, settingsSaveOne, AList.lookup_insert_ne h, Flash.value?]

lemma value?_delete {name : SettingsName} {len : ℕ} :
    Flash.value? name len (settingsDelete name flash) = none := by
  rw [Flash.value?, settingsDelete, AList.lookup_erase, Option.filter_none]

lemma value?_delete_of_ne {name name' : SettingsName} {len : ℕ} (h : name ≠ name') :
    Flash.value? name len (settingsDelete name' flash) = Flash.value? name len flash := by
  rw [Flash.value?, settingsDelete, AList.lookup_erase_ne h, Flash.value?]

lemma storedSettings_addrSave (t : EslTag) : storedSettings (t.eslSettingsAddrSave flash)
    = { storedSettings flash with eslAddr := some t.assoc.eslAddr } := by
  have hown : Flash.value? eslAddrName 2 (t.eslSettingsAddrSave flash)
      = some t.assoc.eslAddr.toStored := value?_saveOne rfl
  have hother : ∀ name len, name ≠ eslAddrName →
      Flash.value? name len (t.eslSettingsAddrSave flash) = Flash.value? name len flash :=
    fun _ _ h => value?_saveOne_of_ne h
  rw [storedSettings, hown, hother _ _ (by decide), hother _ _ (by decide), hother _ _ (by decide),
    Option.bind_some, EslAddr.ofStored?_toStored]
  rfl

lemma storedSettings_apKeySave (t : EslTag) : storedSettings (t.eslSettingsApKeySave flash)
    = { storedSettings flash with eslApKey := some t.assoc.eslApKey } := by
  have hown : Flash.value? eslApKeyName eadKeyMaterialLen (t.eslSettingsApKeySave flash)
      = some t.assoc.eslApKey.keyV := value?_saveOne (KeyMaterial.length_keyV _)
  have hother : ∀ name len, name ≠ eslApKeyName →
      Flash.value? name len (t.eslSettingsApKeySave flash) = Flash.value? name len flash :=
    fun _ _ h => value?_saveOne_of_ne h
  rw [storedSettings, hown, hother _ _ (by decide), hother _ _ (by decide), hother _ _ (by decide),
    Option.map_some, KeyMaterial.ofStored_keyV]
  rfl

lemma storedSettings_rspKeySave (t : EslTag) : storedSettings (t.eslSettingsRspKeySave flash)
    = { storedSettings flash with eslRspKey := some t.assoc.eslRspKey } := by
  have hown : Flash.value? eslRspKeyName eadKeyMaterialLen (t.eslSettingsRspKeySave flash)
      = some t.assoc.eslRspKey.keyV := value?_saveOne (KeyMaterial.length_keyV _)
  have hother : ∀ name len, name ≠ eslRspKeyName →
      Flash.value? name len (t.eslSettingsRspKeySave flash) = Flash.value? name len flash :=
    fun _ _ h => value?_saveOne_of_ne h
  rw [storedSettings, hown, hother _ _ (by decide), hother _ _ (by decide), hother _ _ (by decide),
    Option.map_some, KeyMaterial.ofStored_keyV]
  rfl

lemma storedSettings_absSave : storedSettings (eslSettingsAbsSave flash)
    = { storedSettings flash with eslAbsTime := true } := by
  have hown : Flash.value? eslAbsTimeName 1 (eslSettingsAbsSave flash) = some [1] :=
    value?_saveOne rfl
  have hother : ∀ name len, name ≠ eslAbsTimeName →
      Flash.value? name len (eslSettingsAbsSave flash) = Flash.value? name len flash :=
    fun _ _ h => value?_saveOne_of_ne h
  rw [storedSettings, hown, hother _ _ (by decide), hother _ _ (by decide), hother _ _ (by decide)]
  rfl

lemma storedSettings_delete : storedSettings (flashDeleteProvisionedData flash) = {} := by
  have haddr : Flash.value? eslAddrName 2 (flashDeleteProvisionedData flash) = none := by
    rw [flashDeleteProvisionedData, value?_delete_of_ne (by decide), value?_delete_of_ne (by decide),
      value?_delete_of_ne (by decide), value?_delete]
  have hap : Flash.value? eslApKeyName eadKeyMaterialLen (flashDeleteProvisionedData flash)
      = none := by
    rw [flashDeleteProvisionedData, value?_delete_of_ne (by decide), value?_delete_of_ne (by decide),
      value?_delete]
  have hrsp : Flash.value? eslRspKeyName eadKeyMaterialLen (flashDeleteProvisionedData flash)
      = none := by
    rw [flashDeleteProvisionedData, value?_delete_of_ne (by decide), value?_delete]
  have habs : Flash.value? eslAbsTimeName 1 (flashDeleteProvisionedData flash) = none :=
    value?_delete
  rw [storedSettings, haddr, hap, hrsp, habs]
  rfl

end Values

/-! ## Loading is restoring -/

/-- The meaning of one entry. -/
def entrySettings (name : SettingsName) (value : List UInt8) : Settings where
  eslAddr := if name = eslAddrName ∧ value.length = 2 then EslAddr.ofStored? value else none
  eslApKey :=
    if name = eslApKeyName ∧ value.length = eadKeyMaterialLen then some (.ofStored value) else none
  eslRspKey :=
    if name = eslRspKeyName ∧ value.length = eadKeyMaterialLen then some (.ofStored value) else none
  eslAbsTime := decide (name = eslAbsTimeName ∧ value.length = 1)

/-- Settings read later win. -/
def Settings.override (s later : Settings) : Settings where
  eslAddr := later.eslAddr.or s.eslAddr
  eslApKey := later.eslApKey.or s.eslApKey
  eslRspKey := later.eslRspKey.or s.eslRspKey
  eslAbsTime := s.eslAbsTime || later.eslAbsTime

namespace EslTag

/-- Put values of a store into RAM, with their bits. -/
def restore (s : Settings) (t : EslTag) : EslTag :=
  { t with
    assoc.eslAddr := s.eslAddr.getD t.assoc.eslAddr
    assoc.eslApKey := s.eslApKey.getD t.assoc.eslApKey
    assoc.eslRspKey := s.eslRspKey.getD t.assoc.eslRspKey
    assoc.configuringState.addrSet := t.assoc.configuringState.addrSet || s.eslAddr.isSome
    assoc.configuringState.apSyncKeySet :=
      t.assoc.configuringState.apSyncKeySet || s.eslApKey.isSome
    assoc.configuringState.responseKeySet :=
      t.assoc.configuringState.responseKeySet || s.eslRspKey.isSome
    assoc.configuringState.absTimeSet := t.assoc.configuringState.absTimeSet || s.eslAbsTime }

lemma loadSettings_eq_restore (t : EslTag) : t.loadSettings = t.restore t.assoc.settings := rfl

lemma restore_empty (t : EslTag) : t.restore {} = t := by
  simp only [restore, Option.getD_none, Option.isSome_none, Bool.or_false]

/-- Restoring twice. -/
lemma restore_restore (s later : Settings) (t : EslTag) :
    (t.restore s).restore later = t.restore (s.override later) := by
  simp only [restore, Settings.override, Option.getD_or, Option.isSome_or, Bool.or_assoc,
    Bool.or_comm (s.eslAddr.isSome), Bool.or_comm (s.eslApKey.isSome),
    Bool.or_comm (s.eslRspKey.isSome)]

/-- **The handler restores the entry.** -/
lemma callSetHandler_eq (t : EslTag) (name : SettingsName) (value : List UInt8) :
    t.callSetHandler name value = t.restore (entrySettings name value) := by
  by_cases hhead : name.head? = some "esl"
  · obtain ⟨rest, rfl⟩ : ∃ rest, name = "esl" :: rest := by
      cases name with
      | nil => cases hhead
      | cons x rest => exact ⟨rest, by rw [Option.some.inj hhead]⟩
    rw [callSetHandler, if_pos hhead, List.tail_cons, eslSettingsSet]
    by_cases haddr : rest = ["esl_addr"]
    · subst haddr
      by_cases hlen : value.length = 2
      · rw [if_pos rfl, if_neg (not_not.mpr hlen)]
        cases hstored : EslAddr.ofStored? value <;>
          simp [entrySettings, restore, eslAddrName, eslApKeyName, eslRspKeyName, eslAbsTimeName,
            hlen, hstored]
      · simp [entrySettings, restore, eslApKeyName, eslRspKeyName, eslAbsTimeName, hlen]
    by_cases hap : rest = ["esl_ap_key"]
    · subst hap
      by_cases hlen : value.length = eadKeyMaterialLen <;>
        simp [entrySettings, restore, eslAddrName, eslApKeyName, eslRspKeyName, eslAbsTimeName, hlen]
    by_cases hrsp : rest = ["esl_rsp_key"]
    · subst hrsp
      by_cases hlen : value.length = eadKeyMaterialLen <;>
        simp [entrySettings, restore, eslAddrName, eslApKeyName, eslRspKeyName, eslAbsTimeName, hlen]
    by_cases habs : rest = ["esl_abs_time"]
    · subst habs
      by_cases hlen : value.length = 1 <;>
        simp [entrySettings, restore, eslAddrName, eslApKeyName, eslRspKeyName, eslAbsTimeName, hlen]
    · simp [entrySettings, restore, eslAddrName, eslApKeyName, eslRspKeyName, eslAbsTimeName, haddr,
        hap, hrsp, habs]
  · -- an entry of another subtree
    have hne : ∀ rest, name ≠ "esl" :: rest := by
      rintro rest rfl
      exact hhead rfl
    rw [callSetHandler, if_neg hhead]
    simp [entrySettings, restore, eslAddrName, eslApKeyName, eslRspKeyName, eslAbsTimeName, hne]

/-- The handler, on values. -/
def collect (s : Settings) (name : SettingsName) (value : List UInt8) : Settings :=
  s.override (entrySettings name value)

/-- A value that only the entry of its own name changes is that of the flash. -/
lemma load_value {α : Type*} (E : Enumeration SettingsName (List UInt8)) (flash : Flash)
    {f : Settings → Option α} {name : SettingsName} {len : ℕ} {g : List UInt8 → Option α}
    (hother : ∀ s name' value, name' ≠ name → f (collect s name' value) = f s)
    (hself : ∀ s value, f (collect s name value)
      = (if value.length = len then g value else none).or (f s)) (hempty : f {} = none) :
    f (E.load collect flash {}) = (Flash.value? name len flash).bind g := by
  rw [E.load_component f name _ hother hself, hempty, Flash.value?]
  cases AList.lookup name flash with
  | none => rfl
  | some value => by_cases hlen : value.length = len <;> simp [Option.filter_some, hlen]

/-- The values that a load collects are those of the flash. -/
lemma load_collect (E : Enumeration SettingsName (List UInt8)) (flash : Flash) :
    E.load collect flash {} = storedSettings flash := by
  have haddr : (E.load collect flash {}).eslAddr = (storedSettings flash).eslAddr :=
    load_value E flash (fun s name value h => by simp [collect, Settings.override, entrySettings, h])
      (fun s value => by simp [collect, Settings.override, entrySettings]) rfl
  have hap : (E.load collect flash {}).eslApKey = (storedSettings flash).eslApKey := by
    rw [storedSettings, Option.map_eq_bind]
    exact load_value E flash
      (fun s name value h => by simp [collect, Settings.override, entrySettings, h])
      (fun s value => by simp [collect, Settings.override, entrySettings]) rfl
  have hrsp : (E.load collect flash {}).eslRspKey = (storedSettings flash).eslRspKey := by
    rw [storedSettings, Option.map_eq_bind, Option.map_eq_bind]
    exact load_value E flash
      (fun s name value h => by simp [collect, Settings.override, entrySettings, h])
      (fun s value => by simp [collect, Settings.override, entrySettings]) rfl
  have habs : (E.load collect flash {}).eslAbsTime = (storedSettings flash).eslAbsTime := by
    rw [E.load_component Settings.eslAbsTime eslAbsTimeName
      (fun value old => old || decide (value.length = 1))
      (fun s name value h => by simp [collect, Settings.override, entrySettings, h])
      (fun s value => by simp [collect, Settings.override, entrySettings])]
    simp only [storedSettings, Flash.value?]
    cases AList.lookup eslAbsTimeName flash with
    | none => rfl
    | some value => by_cases hlen : value.length = 1 <;> simp [Option.filter_some, hlen]
  generalize E.load collect flash {} = s at haddr hap hrsp habs
  obtain ⟨_, _, _, _⟩ := s
  simp only [storedSettings] at haddr hap hrsp habs ⊢
  rw [haddr, hap, hrsp, habs]

/-- **Loading restores what the flash holds**, in whatever order it is listed. -/
theorem settingsLoadSubtree_eq (E : Enumeration SettingsName (List UInt8)) (flash : Flash)
    (t : EslTag) : t.settingsLoadSubtree E flash = t.restore (storedSettings flash) := by
  have hhom : ∀ (s : Settings) (name : SettingsName) (value : List UInt8),
      callSetHandler (t.restore s) name value = t.restore (collect s name value) := by
    intro s name value
    rw [callSetHandler_eq, restore_restore, collect]
  have hload := E.load_hom (fun s => t.restore s) hhom flash {}
  rw [load_collect, restore_empty] at hload
  exact hload

end EslTag

end NrfEsl
