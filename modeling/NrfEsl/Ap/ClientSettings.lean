import NrfEsl.Ap.Buttons
import NrfEsl.Tag.Settings

/-!
# The settings of the access point

`esl_client_settings.c` keeps the AP Sync Key and two numbers of the user interface in the flash.
`bt_esl_client_init` loads them and draws a key if it has none then.

Everything may fail here: the initialisation of the settings subsystem, the read of an entry, a save.
None of these failures stops the start.
-/

namespace NrfEsl

open KeyValueStore

/-! ## esl_client_settings.c -/

/-- What the access point has in RAM. -/
@[ext]
structure ClientSettings where
  eslApKey : KeyMaterial
  eslCTagsPerGroup : UInt16
  groupsPerButton : UInt8
  deriving DecidableEq

def clientApKeyName : SettingsName := ["esl_c", "esl_ap_key"]
def tagsPerGroupName : SettingsName := ["esl_c", "tags_per_group"]
def groupsPerButtonName : SettingsName := ["esl_c", "groups_per_button"]

/-- One load: how the backend lists the entries, and of which the `read_cb` succeeds. -/
structure ClientLoad where
  order : Enumeration SettingsName (List UInt8)
  read : SettingsName → Bool

namespace ClientSettings

/-- `esl_c_settings_set`.  After a failed read the other names are tried too. -/
def eslCSettingsSet (read : Bool) (name : SettingsName) (value : List UInt8) (s : ClientSettings) :
    Except SettingsError Unit × ClientSettings :=
  if name = ["esl_ap_key"] ∧ value.length ≠ eadKeyMaterialLen then (.error .einval, s)
  else if name = ["esl_ap_key"] ∧ read then (.ok (), { s with eslApKey := .ofStored value })
  else if name = ["tags_per_group"] ∧ value.length ≠ 2 then (.error .einval, s)
  else if name = ["tags_per_group"] ∧ read then
    (.ok (), { s with eslCTagsPerGroup := sysGetLe16 (Mem.ofBytes value fun _ => 0) 0 })
  else if name = ["groups_per_button"] ∧ value.length ≠ 1 then (.error .einval, s)
  else if name = ["groups_per_button"] ∧ read then
    (.ok (), { s with groupsPerButton := Mem.ofBytes value (fun _ => 0) 0 })
  else (.error .enoent, s)

/-- The settings subsystem hands an entry below `esl_c/` to the handler. -/
def callSetHandler (read : SettingsName → Bool) (s : ClientSettings) (name : SettingsName)
    (value : List UInt8) : ClientSettings :=
  if name.head? = some "esl_c" then (s.eslCSettingsSet (read name) name.tail value).2 else s

/-- `settings_load_subtree("esl_c")`, and of `settings_load` what reaches this handler. -/
def settingsLoad (load : ClientLoad) (flash : Flash) (s : ClientSettings) : ClientSettings :=
  load.order.load (callSetHandler load.read) flash s

/-- `esl_c_setting_ap_key_save` -/
def eslCSettingApKeySave (s : ClientSettings) : Flash → Flash :=
  settingsSaveOne clientApKeyName s.eslApKey.keyV

/-- `esl_c_setting_tags_per_group_save` -/
def eslCSettingTagsPerGroupSave (s : ClientSettings) : Flash → Flash :=
  settingsSaveOne tagsPerGroupName [lowByte s.eslCTagsPerGroup, highByte s.eslCTagsPerGroup]

/-- `esl_c_setting_group_per_button_save` -/
def eslCSettingGroupPerButtonSave (s : ClientSettings) : Flash → Flash :=
  settingsSaveOne groupsPerButtonName [s.groupsPerButton]

end ClientSettings

/-- `esl_c_setting_clear_all`, which returns 0 and clears nothing. -/
def eslCSettingClearAll (flash : Flash) : Flash := flash

/-! ## Start-up -/

/-- The numbers a build starts with. -/
structure ClientDefaults where
  tagsPerGroup : UInt16
  groupsPerButton : UInt8

/-- A start: whether `settings_subsys_init` and `settings_register` succeed, what `bt_rand` would put
into the key, and whether the key would be saved. -/
structure ClientStart extends ClientLoad where
  initialised : Bool
  rand : KeyMaterial
  saved : Bool

namespace ClientSettings

/-- Before anything is loaded. -/
def cleared (defaults : ClientDefaults) : ClientSettings where
  eslApKey := .zero
  eslCTagsPerGroup := defaults.tagsPerGroup
  groupsPerButton := defaults.groupsPerButton

/-- `esl_c_settings_init` -/
def eslCSettingsInit (start : ClientStart) (flash : Flash) (s : ClientSettings) : ClientSettings :=
  if start.initialised then s.settingsLoad start.toClientLoad flash else s

/-- `bt_esl_client_init`, as far as the settings go. -/
def btEslClientInit (defaults : ClientDefaults) (start : ClientStart) (flash : Flash) :
    ClientSettings × Flash :=
  let s := (cleared defaults).eslCSettingsInit start flash
  if s.eslApKey = .zero then
    let s := { s with eslApKey := start.rand }
    (s, if start.saved then s.eslCSettingApKeySave flash else flash)
  else (s, flash)

end ClientSettings

/-! ## What else changes them -/

namespace ClientSettings

/-- `cmd_tags_per_group` -/
def cmdTagsPerGroup (argv : List (List Char)) (saved : Bool) (s : ClientSettings) (flash : Flash) :
    ClientSettings × Flash :=
  if argv.length > 1 then
    let s := { s with eslCTagsPerGroup := UInt16.ofInt (Text.strtol 10 (argv.getD 1 [])) }
    (s, if saved then s.eslCSettingTagsPerGroupSave flash else flash)
  else (s, flash)

/-- `cmd_groups_per_button`, with its save. -/
def cmdGroupsPerButton (argv : List (List Char)) (saved : Bool) (s : ClientSettings) (flash : Flash) :
    ClientSettings × Flash :=
  let s := { s with groupsPerButton := NrfEsl.cmdGroupsPerButton s.groupsPerButton argv }
  (s, if argv.length > 1 ∧ saved then s.eslCSettingGroupPerButtonSave flash else flash)

end ClientSettings

/-- Under which name the stack keeps a bond. -/
def btKeysName (bond : List String) : SettingsName := "bt" :: "keys" :: bond

/-- `bt_keys_store` -/
def btKeysStore (bond : List String) (keys : List UInt8) (saved : Bool) (flash : Flash) : Flash :=
  if saved then settingsSaveOne (btKeysName bond) keys flash else flash

/-- `esl_c_import_bt_key`: after the bond is stored, all settings are loaded again. -/
def eslCImportBtKey (bond : List String) (keys : List UInt8) (saved : Bool) (load : ClientLoad)
    (s : ClientSettings) (flash : Flash) : ClientSettings × Flash :=
  let flash := btKeysStore bond keys saved flash
  (s.settingsLoad load flash, flash)

/-- `bt_esl_c_reset_ap`, as far as the settings go: the stack deletes the bonds it has. -/
def btEslCResetAp (bonds : List (List String)) (flash : Flash) : Flash :=
  bonds.foldl (fun flash bond => settingsDelete (btKeysName bond) flash) (eslCSettingClearAll flash)

/-! ## What the flash holds -/

/-- The AP Sync Key of the flash; 24 zeros count as none. -/
def storedClientKey (flash : Flash) : Option KeyMaterial :=
  ((Flash.value? clientApKeyName eadKeyMaterialLen flash).map .ofStored).filter
    fun key => decide (key ≠ .zero)

/-- What a start finds that reads everything, except that it draws no key. -/
def storedClientSettings (defaults : ClientDefaults) (flash : Flash) : ClientSettings where
  eslApKey := (storedClientKey flash).getD .zero
  eslCTagsPerGroup := ((Flash.value? tagsPerGroupName 2 flash).map fun value =>
    sysGetLe16 (Mem.ofBytes value fun _ => 0) 0).getD defaults.tagsPerGroup
  groupsPerButton := ((Flash.value? groupsPerButtonName 1 flash).map fun value =>
    Mem.ofBytes value (fun _ => 0) 0).getD defaults.groupsPerButton

namespace ClientSettings

variable {flash : Flash} {defaults : ClientDefaults} {load : ClientLoad} {start : ClientStart}
  {s : ClientSettings}

/-- **The handler, by components.** -/
lemma callSetHandler_eq (read : SettingsName → Bool) (s : ClientSettings) (name : SettingsName)
    (value : List UInt8) : callSetHandler read s name value
    = { eslApKey := if name = clientApKeyName ∧ value.length = eadKeyMaterialLen ∧ read name = true
          then .ofStored value else s.eslApKey
        eslCTagsPerGroup := if name = tagsPerGroupName ∧ value.length = 2 ∧ read name = true
          then sysGetLe16 (Mem.ofBytes value fun _ => 0) 0 else s.eslCTagsPerGroup
        groupsPerButton := if name = groupsPerButtonName ∧ value.length = 1 ∧ read name = true
          then Mem.ofBytes value (fun _ => 0) 0 else s.groupsPerButton } := by
  by_cases hhead : name.head? = some "esl_c"
  · obtain ⟨rest, rfl⟩ : ∃ rest, name = "esl_c" :: rest := by
      cases name with
      | nil => cases hhead
      | cons x rest => exact ⟨rest, by rw [Option.some.inj hhead]⟩
    rw [callSetHandler, if_pos hhead, List.tail_cons, eslCSettingsSet]
    have hname : ∀ last : String, "esl_c" :: rest = ["esl_c", last] ↔ rest = [last] := by simp
    simp only [clientApKeyName, tagsPerGroupName, groupsPerButtonName, hname]
    by_cases hkey : rest = ["esl_ap_key"]
    · subst hkey
      by_cases hlen : value.length = eadKeyMaterialLen <;>
        cases read ("esl_c" :: ["esl_ap_key"]) <;> simp [hlen]
    by_cases htags : rest = ["tags_per_group"]
    · subst htags
      by_cases hlen : value.length = 2 <;>
        cases read ("esl_c" :: ["tags_per_group"]) <;> simp [hlen]
    by_cases hgroups : rest = ["groups_per_button"]
    · subst hgroups
      by_cases hlen : value.length = 1 <;>
        cases read ("esl_c" :: ["groups_per_button"]) <;> simp [hlen]
    · simp [hkey, htags, hgroups]
  · -- an entry of another subtree
    have hne : ∀ last : String, name ≠ ["esl_c", last] := by
      rintro last rfl
      exact hhead rfl
    rw [callSetHandler, if_neg hhead]
    simp [clientApKeyName, tagsPerGroupName, groupsPerButtonName, hne]

/-- One component after a load. -/
lemma load_component {α : Type*} {f : ClientSettings → α} {name : SettingsName} {len : ℕ}
    {g : List UInt8 → α}
    (hf : ∀ s name' value, f (callSetHandler load.read s name' value)
      = if name' = name ∧ value.length = len ∧ load.read name' = true then g value else f s) :
    f (s.settingsLoad load flash)
      = if load.read name then ((Flash.value? name len flash).map g).getD (f s) else f s := by
  have hother : ∀ s name' value, name' ≠ name →
      f (callSetHandler load.read s name' value) = f s := by
    intro s name' value h
    simp [hf, h]
  have hself : ∀ s value, f (callSetHandler load.read s name value)
      = if value.length = len ∧ load.read name = true then g value else f s := by
    intro s value
    simp [hf]
  have hcomponent := load.order.load_component f name
    (fun value old => if value.length = len ∧ load.read name = true then g value else old)
    hother hself flash s
  rw [settingsLoad, hcomponent, Flash.value?]
  cases AList.lookup name flash with
  | none => simp
  | some value => by_cases hlen : value.length = len <;> simp [Option.filter_some, hlen]

variable (load flash s)

lemma eslApKey_settingsLoad : (s.settingsLoad load flash).eslApKey
    = if load.read clientApKeyName then
        ((Flash.value? clientApKeyName eadKeyMaterialLen flash).map .ofStored).getD s.eslApKey
      else s.eslApKey :=
  load_component fun s name value => by rw [callSetHandler_eq]

lemma eslCTagsPerGroup_settingsLoad : (s.settingsLoad load flash).eslCTagsPerGroup
    = if load.read tagsPerGroupName then
        ((Flash.value? tagsPerGroupName 2 flash).map fun value =>
          sysGetLe16 (Mem.ofBytes value fun _ => 0) 0).getD s.eslCTagsPerGroup
      else s.eslCTagsPerGroup :=
  load_component fun s name value => by rw [callSetHandler_eq]

lemma groupsPerButton_settingsLoad : (s.settingsLoad load flash).groupsPerButton
    = if load.read groupsPerButtonName then
        ((Flash.value? groupsPerButtonName 1 flash).map fun value =>
          Mem.ofBytes value (fun _ => 0) 0).getD s.groupsPerButton
      else s.groupsPerButton :=
  load_component fun s name value => by rw [callSetHandler_eq]

end ClientSettings

end NrfEsl
