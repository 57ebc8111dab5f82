import NrfEsl.Ap.ClientSettings
import NrfEsl.ConfiguredTags
import NrfEsl.Persistence

/-!
# An access point that restarts

Tags that were configured before a restart of the access point are to hear it afterwards.  For that
the key of the access point has to be the one in the flash of every tag, although both sides restart
when they like, and bonds are imported, deleted and reset in between.

**What holds** (`KeysAgree`).  A restart of the access point finds what it has in RAM, and whatever AP
Sync Key a tag has is that of the access point.

**The exception** (`KeepsKey`).  A start that cannot read the key does not stop: it draws another key
and saves it over the old one.
-/

namespace NrfEsl

open KeyValueStore TransitionSystem ClientSettings

/-! ## The system -/

/-- The access point and the tags, with their flashes. -/
structure Installation (ι : Type*) where
  flash : Flash
  /-- What the access point has in RAM; nothing before its first start. -/
  ap : Option ClientSettings
  tags : ι → FlashedTag

inductive InstallationEvent (ι : Type*)
  | start (start : ClientStart)
  | tagsPerGroup (argv : List (List Char)) (saved : Bool)
  | groupsPerButton (argv : List (List Char)) (saved : Bool)
  | importBtKey (bond : List String) (keys : List UInt8) (saved : Bool) (load : ClientLoad)
  | resetAp (bonds : List (List String))
  /-- The stack saves a bond of its own. -/
  | paired (bond : List String) (keys : List UInt8) (saved : Bool)
  /-- The write of `esl_c_ap_key_update` arrives. -/
  | apKeyUpdate (i : ι) (beyond : Mem)
  | tag (i : ι) (e : TagEvent)

namespace Installation

variable {ι : Type*} [DecidableEq ι] (defaults : ClientDefaults) (cfg : ι → Config) (ead : Ead)
  (order : ι → Enumeration SettingsName (List UInt8))

/-- An event of a tag. -/
def stepTag (n : Installation ι) (i : ι) (e : TagEvent) : Option (Installation ι) :=
  ((n.tags i).step (cfg i) ead (order i) e).map fun x =>
    { n with tags := Function.update n.tags i x }

/-- The access point and its flash after an event of its own. -/
def withAp (n : Installation ι) (x : ClientSettings × Flash) : Installation ι :=
  { n with ap := some x.1, flash := x.2 }

/-- One event. -/
def step (n : Installation ι) : InstallationEvent ι → Option (Installation ι)
  | .start start => some (n.withAp (btEslClientInit defaults start n.flash))
  | .tagsPerGroup argv saved => n.ap.map fun s => n.withAp (s.cmdTagsPerGroup argv saved n.flash)
  | .groupsPerButton argv saved =>
      n.ap.map fun s => n.withAp (s.cmdGroupsPerButton argv saved n.flash)
  | .importBtKey bond keys saved load =>
      n.ap.map fun s => n.withAp (eslCImportBtKey bond keys saved load s n.flash)
  | .resetAp bonds => n.ap.map fun s => n.withAp (s, btEslCResetAp bonds n.flash)
  | .paired bond keys saved => n.ap.map fun s => n.withAp (s, btKeysStore bond keys saved n.flash)
  | .apKeyUpdate i beyond => n.ap.bind fun s =>
      n.stepTag cfg ead order i (.apKeyWrite ⟨.ofBytes (eslCApKeyUpdate s.eslApKey) beyond, 0⟩)
  | .tag i e => n.stepTag cfg ead order i e

/-- The tags have booted, the access point has not. -/
def boot (flash : Flash) (p : ι → EslTag.BootParam) (flashes : ι → Flash) : Installation ι where
  flash := flash
  ap := none
  tags i := .boot (cfg i) (order i) (p i) (flashes i)

end Installation

/-! ## Specification -/

/-- The load reads every entry of the access point. -/
def ClientLoad.Reads (load : ClientLoad) : Prop :=
  load.read clientApKeyName = true ∧ load.read tagsPerGroupName = true
    ∧ load.read groupsPerButtonName = true

instance (load : ClientLoad) : Decidable load.Reads := inferInstanceAs (Decidable (_ ∧ _))

/-- A start from this flash has the key `key`, and leaves it there. -/
def KeepsKey (defaults : ClientDefaults) (start : ClientStart) (flash : Flash) (key : KeyMaterial) :
    Prop :=
  (btEslClientInit defaults start flash).1.eslApKey = key
    ∧ storedClientKey (btEslClientInit defaults start flash).2 = some key

/-- What a restart finds, and what the tags have. -/
structure KeysAgree {ι : Type*} (defaults : ClientDefaults) (ead : Ead) (n : Installation ι)
    (s : ClientSettings) : Prop where
  restart : ∀ start : ClientStart, start.initialised = true → start.Reads →
    btEslClientInit defaults start n.flash = (s, n.flash)
  key : ∀ i, (n.tags i).device.tag.assoc.configuringState.apSyncKeySet = true →
    (n.tags i).device.tag.assoc.eslApKey = s.eslApKey
  /-- A tag with a key decrypts the packets of the access point. -/
  hears : ∀ i, (n.tags i).device.tag.assoc.configuringState.apSyncKeySet = true →
    ∀ (payload : List UInt8) (buf : NetBuf) (stack : Mem),
      payload.length ≤ eslSyncPktPayloadMaxLen → IsPacketOf ead s.eslApKey payload buf.bytes →
        ∃ b : NetBuf, (TagDevice.decryptPacket ead (n.tags i).device.tag.assoc.eslApKey stack buf).val
          = (true, b) ∧ b.bytes = eslAd payload

/-- The event writes an AP Sync Key. -/
def TagEvent.writesApKey : TagEvent → Bool
  | .apKeyWrite _ => true
  | _ => false

namespace Installation

variable {ι : Type*}

/-- Starts read what is there, saves succeed, a key that is drawn is not all zeros, and nobody else
writes keys. -/
def Kept (n : Installation ι) : InstallationEvent ι → Prop
  | .start start => start.initialised = true ∧ start.Reads
      ∧ (storedClientKey n.flash = none → start.saved = true ∧ start.rand ≠ .zero)
  | .tagsPerGroup _ saved | .groupsPerButton _ saved => saved = true
  | .importBtKey _ _ _ _ | .resetAp _ | .paired _ _ _ | .apKeyUpdate _ _ => True
  | .tag _ e => e.writesApKey = false

instance (n : Installation ι) : DecidablePred n.Kept
  | .start start => inferInstanceAs (Decidable (start.initialised = true ∧ start.Reads
      ∧ (storedClientKey n.flash = none → start.saved = true ∧ start.rand ≠ .zero)))
  | .tagsPerGroup _ saved => inferInstanceAs (Decidable (saved = true))
  | .groupsPerButton _ saved => inferInstanceAs (Decidable (saved = true))
  | .importBtKey _ _ _ _ | .resetAp _ | .paired _ _ _ | .apKeyUpdate _ _ => isTrue trivial
  | .tag _ e => inferInstanceAs (Decidable (e.writesApKey = false))

end Installation

/-! ## Starts -/

section Start

variable {flash : Flash} {defaults : ClientDefaults} {load : ClientLoad} {start : ClientStart}
  {s : ClientSettings}

/-- A load that reads everything finds what the flash holds. -/
lemma settingsLoad_cleared (h : load.Reads) :
    (cleared defaults).settingsLoad load flash = storedClientSettings defaults flash := by
  obtain ⟨hkey, htags, hgroups⟩ := h
  refine ClientSettings.ext ?_ ?_ ?_
  · rw [eslApKey_settingsLoad, if_pos hkey]
    simp only [storedClientSettings, storedClientKey]
    cases (Flash.value? clientApKeyName eadKeyMaterialLen flash).map KeyMaterial.ofStored with
    | none => rfl
    | some key => by_cases hzero : key = .zero <;> simp [Option.filter_some, hzero]
  · rw [eslCTagsPerGroup_settingsLoad, if_pos htags]
    rfl
  · rw [groupsPerButton_settingsLoad, if_pos hgroups]
    rfl

variable {key : KeyMaterial}

lemma ne_zero_of_storedClientKey (h : storedClientKey flash = some key) : key ≠ .zero := by
  rw [storedClientKey, Option.filter_eq_some_iff] at h
  exact of_decide_eq_true h.2

/-- The key of the flash, as the settings that are read. -/
lemma storedClientKey_eq (h : (storedClientSettings defaults flash).eslApKey ≠ .zero) :
    storedClientKey flash = some (storedClientSettings defaults flash).eslApKey := by
  simp only [storedClientSettings] at h ⊢
  cases hkey : storedClientKey flash with
  | none =>
      rw [hkey] at h
      exact absurd rfl h
  | some key => rfl

/-- **A start that reads everything** draws a key if there is none. -/
lemma btEslClientInit_of_reads (hinit : start.initialised = true) (h : start.Reads) :
    btEslClientInit defaults start flash
      = if storedClientKey flash = none then
          let s := { storedClientSettings defaults flash with eslApKey := start.rand }
          (s, if start.saved then s.eslCSettingApKeySave flash else flash)
        else (storedClientSettings defaults flash, flash) := by
  have hload : (cleared defaults).eslCSettingsInit start flash
      = storedClientSettings defaults flash := by
    rw [eslCSettingsInit, if_pos hinit, settingsLoad_cleared h]
  rw [btEslClientInit, hload]
  cases hkey : storedClientKey flash with
  | none =>
      have hzero : (storedClientSettings defaults flash).eslApKey = .zero := by
        simp [storedClientSettings, hkey]
      rw [if_pos hzero, if_pos rfl]
  | some key =>
      have hne : (storedClientSettings defaults flash).eslApKey ≠ .zero := by
        simpa [storedClientSettings, hkey] using ne_zero_of_storedClientKey hkey
      rw [if_neg hne, if_neg (by simp)]

/-- What a save of the key leaves. -/
lemma storedClientKey_apKeySave (hs : s.eslApKey ≠ .zero) :
    storedClientKey (s.eslCSettingApKeySave flash) = some s.eslApKey := by
  have hvalue : Flash.value? clientApKeyName eadKeyMaterialLen (s.eslCSettingApKeySave flash)
      = some s.eslApKey.keyV := value?_saveOne (KeyMaterial.length_keyV _)
  rw [storedClientKey, hvalue, Option.map_some, KeyMaterial.ofStored_keyV]
  simp [Option.filter_some, hs]

/-- The key after the load of a flash that has one. -/
lemma eslApKey_eslCSettingsInit (hkey : storedClientKey flash = some key) :
    ((cleared defaults).eslCSettingsInit start flash).eslApKey
      = if start.initialised = true ∧ start.read clientApKeyName = true then key else .zero := by
  have hstored : (Flash.value? clientApKeyName eadKeyMaterialLen flash).map KeyMaterial.ofStored
      = some key := by
    rw [storedClientKey, Option.filter_eq_some_iff] at hkey
    exact hkey.1
  rw [eslCSettingsInit]
  by_cases hinit : start.initialised = true
  · rw [if_pos hinit, eslApKey_settingsLoad, hstored]
    simp [hinit, cleared]
  · simp [hinit, cleared]

/-- **Which starts keep the key of the flash**: those that read it. -/
lemma keepsKey_iff (hkey : storedClientKey flash = some key) : KeepsKey defaults start flash key
    ↔ start.initialised = true ∧ start.read clientApKeyName = true ∨ start.rand = key := by
  have hne := ne_zero_of_storedClientKey hkey
  have hload : ((cleared defaults).eslCSettingsInit start flash).eslApKey
      = if start.initialised = true ∧ start.read clientApKeyName = true then key else .zero :=
    eslApKey_eslCSettingsInit hkey
  rw [KeepsKey, btEslClientInit]
  by_cases hread : start.initialised = true ∧ start.read clientApKeyName = true
  · rw [if_pos hread] at hload
    simp [hload, hne, hread, hkey]
  · rw [if_neg hread] at hload
    rw [if_pos hload]
    refine ⟨fun h => .inr h.1, ?_⟩
    intro h
    have hrand : start.rand = key := h.resolve_left hread
    refine ⟨hrand, ?_⟩
    dsimp only
    split
    · rw [storedClientKey_apKeySave (hrand ▸ hne), hrand]
    · exact hkey

end Start

/-! ## Saves -/

section Saves

variable {flash : Flash} {defaults : ClientDefaults} {s : ClientSettings}

lemma storedClientSettings_apKeySave (hs : s.eslApKey ≠ .zero) :
    storedClientSettings defaults (s.eslCSettingApKeySave flash)
      = { storedClientSettings defaults flash with eslApKey := s.eslApKey } := by
  have hother : ∀ name len, name ≠ clientApKeyName →
      Flash.value? name len (s.eslCSettingApKeySave flash) = Flash.value? name len flash :=
    fun _ _ h => value?_saveOne_of_ne h
  rw [storedClientSettings, storedClientKey_apKeySave hs, hother _ _ (by decide),
    hother _ _ (by decide)]
  rfl

lemma storedClientSettings_tagsPerGroupSave :
    storedClientSettings defaults (s.eslCSettingTagsPerGroupSave flash)
      = { storedClientSettings defaults flash with eslCTagsPerGroup := s.eslCTagsPerGroup } := by
  have hown : Flash.value? tagsPerGroupName 2 (s.eslCSettingTagsPerGroupSave flash)
      = some [lowByte s.eslCTagsPerGroup, highByte s.eslCTagsPerGroup] := value?_saveOne rfl
  have hother : ∀ name len, name ≠ tagsPerGroupName →
      Flash.value? name len (s.eslCSettingTagsPerGroupSave flash) = Flash.value? name len flash :=
    fun _ _ h => value?_saveOne_of_ne h
  rw [storedClientSettings, storedClientKey, hother _ _ (by decide), hown, hother _ _ (by decide),
    Option.map_some, sysGetLe16_bytes]
  rfl

lemma storedClientSettings_groupPerButtonSave :
    storedClientSettings defaults (s.eslCSettingGroupPerButtonSave flash)
      = { storedClientSettings defaults flash with groupsPerButton := s.groupsPerButton } := by
  have hown : Flash.value? groupsPerButtonName 1 (s.eslCSettingGroupPerButtonSave flash)
      = some [s.groupsPerButton] := value?_saveOne rfl
  have hother : ∀ name len, name ≠ groupsPerButtonName →
      Flash.value? name len (s.eslCSettingGroupPerButtonSave flash) = Flash.value? name len flash :=
    fun _ _ h => value?_saveOne_of_ne h
  rw [storedClientSettings, storedClientKey, hother _ _ (by decide), hother _ _ (by decide), hown]
  rfl

/-- What the stack does to its bonds leaves the settings of the access point alone. -/
lemma storedClientSettings_congr {flash' : Flash}
    (h : ∀ name len, name.head? = some "esl_c" →
      Flash.value? name len flash' = Flash.value? name len flash) :
    storedClientSettings defaults flash' = storedClientSettings defaults flash := by
  rw [storedClientSettings, storedClientKey, h _ _ rfl, h _ _ rfl, h _ _ rfl]
  rfl

lemma head?_ne_btKeysName {name : SettingsName} (h : name.head? = some "esl_c")
    (bond : List String) : name ≠ btKeysName bond := by
  rintro rfl
  simp [btKeysName] at h

lemma storedClientSettings_btKeysStore (bond : List String) (keys : List UInt8) (saved : Bool) :
    storedClientSettings defaults (btKeysStore bond keys saved flash)
      = storedClientSettings defaults flash := by
  rw [btKeysStore]
  split
  · exact storedClientSettings_congr fun name len h =>
      value?_saveOne_of_ne (head?_ne_btKeysName h bond)
  · rfl

lemma storedClientSettings_btEslCResetAp (bonds : List (List String)) :
    storedClientSettings defaults (btEslCResetAp bonds flash)
      = storedClientSettings defaults flash := by
  rw [btEslCResetAp, eslCSettingClearAll]
  induction bonds generalizing flash with
  | nil => rfl
  | cons bond bonds ih =>
      rw [List.foldl_cons, ih]
      exact storedClientSettings_congr fun name len h =>
        value?_delete_of_ne (head?_ne_btKeysName h bond)

/-- What RAM has is loaded again. -/
lemma settingsLoad_stored {load : ClientLoad} (h : storedClientSettings defaults flash = s) :
    s.settingsLoad load flash = s := by
  refine ClientSettings.ext ?_ ?_ ?_
  · rw [eslApKey_settingsLoad, ← h]
    simp only [storedClientSettings, storedClientKey]
    cases (Flash.value? clientApKeyName eadKeyMaterialLen flash).map KeyMaterial.ofStored with
    | none => simp
    | some key => by_cases hzero : key = .zero <;> simp [Option.filter_some, hzero]
  · rw [eslCTagsPerGroup_settingsLoad, ← h]
    simp only [storedClientSettings]
    cases Flash.value? tagsPerGroupName 2 flash <;> simp
  · rw [groupsPerButton_settingsLoad, ← h]
    simp only [storedClientSettings]
    cases Flash.value? groupsPerButtonName 1 flash <;> simp

end Saves

/-! ## Tags -/

/-- Whatever AP Sync Key the tag has, in RAM or in its flash, is this one. -/
structure HoldsOnly (key? : Option KeyMaterial) (x : FlashedTag) : Prop where
  ram : x.device.tag.assoc.configuringState.apSyncKeySet = true →
    key? = some x.device.tag.assoc.eslApKey
  stored : ∀ key ∈ (storedSettings x.flash).eslApKey, key? = some key

section Tags

variable {cfg : Config} {ead : Ead} {E : Enumeration SettingsName (List UInt8)}
  {key? : Option KeyMaterial} {x y : FlashedTag}

/-- A boot takes the key from the flash. -/
lemma holdsOnly_boot {p : EslTag.BootParam} {flash : Flash}
    (h : ∀ key ∈ (storedSettings flash).eslApKey, key? = some key) :
    HoldsOnly key? (.boot cfg E p flash) := by
  have hprovisioned : (FlashedTag.boot cfg E p flash).device.tag.provisioned
      = .of (storedSettings flash) := provisioned_boot p flash
  have hbit := congrArg (fun d => d.bits.apSyncKey) hprovisioned
  have hkey := congrArg ProvisionedData.eslApKey hprovisioned
  refine ⟨fun hset => ?_, h⟩
  obtain ⟨key, hstored⟩ := Option.isSome_iff_exists.mp (hbit.symm.trans hset)
  refine (h key hstored).trans (congrArg some ?_)
  refine Eq.trans ?_ hkey.symm
  simp [ProvisionedData.of, hstored]

/-- The key in the flash after an event that writes none. -/
lemma eslApKey_flashAfter {d d' : TagDevice} {e : TagEvent} (he : e.writesApKey = false)
    (flash : Flash) :
    (storedSettings (d.flashAfter cfg e d' flash)).eslApKey = (storedSettings flash).eslApKey
      ∨ (storedSettings (d.flashAfter cfg e d' flash)).eslApKey = none := by
  have hdelete : ∀ b : Prop, [Decidable b] →
      (storedSettings (if b then flashDeleteProvisionedData flash else flash)).eslApKey
          = (storedSettings flash).eslApKey
        ∨ (storedSettings (if b then flashDeleteProvisionedData flash else flash)).eslApKey
          = none := by
    intro b _
    split
    · exact .inr (by rw [storedSettings_delete])
    · exact .inl rfl
  cases e with
  | apKeyWrite w => cases he
  | eslAddrWrite w =>
      simp only [TagDevice.flashAfter]
      split
      · split
        · exact .inl rfl
        · exact .inl (by rw [storedSettings_addrSave])
      · exact .inl rfl
  | eslRspKeyWrite w =>
      simp only [TagDevice.flashAfter]
      split
      · exact .inl rfl
      · exact .inl (by rw [storedSettings_rspKeySave])
  | absTimeWrite w =>
      simp only [TagDevice.flashAfter]
      split
      · exact .inl rfl
      · exact .inl (by rw [storedSettings_absSave])
  | _ => exact hdelete _

/-- The key in RAM after a write of something else. -/
lemma ram_attWrite {c : Characteristic} (hc : .apSyncKey ≠ c) (w : AttWrite) (t : EslTag)
    (h : t.assoc.configuringState.apSyncKeySet = true → key? = some t.assoc.eslApKey)
    (hset : (t.attWrite cfg c w).val.2.assoc.configuringState.apSyncKeySet = true) :
    key? = some (t.attWrite cfg c w).val.2.assoc.eslApKey := by
  have hholds : t.HoldsValue (t.attWrite cfg c w).val.2.assoc.eslApKey .zero 0 .apSyncKey :=
    (holdsValue_attWrite hc w).mp ⟨rfl, hset⟩
  rw [← hholds.1]
  exact h hholds.2

/-- The key in RAM after anything that keeps the provisioned data, or clears them. -/
lemma ram_of_provisioned {t t' : EslTag} {unassociates : Bool}
    (hprovisioned : t'.provisioned = if unassociates then .none else t.provisioned)
    (h : t.assoc.configuringState.apSyncKeySet = true → key? = some t.assoc.eslApKey)
    (hset : t'.assoc.configuringState.apSyncKeySet = true) : key? = some t'.assoc.eslApKey := by
  have hbit : t'.assoc.configuringState.apSyncKeySet = t'.provisioned.bits.apSyncKey := rfl
  have hkey : t'.assoc.eslApKey = t'.provisioned.eslApKey := rfl
  rw [hbit, hprovisioned] at hset
  rw [hkey, hprovisioned]
  cases unassociates with
  | false => exact h hset
  | true => cases hset

/-- **A step of a tag** to which nobody writes a key. -/
lemma HoldsOnly.step (h : HoldsOnly key? x) {e : TagEvent} (he : e.writesApKey = false)
    (hstep : x.step cfg ead E e = some y) : HoldsOnly key? y := by
  by_cases hboot : ∃ p, e = .reboot p
  · obtain ⟨p, rfl⟩ := hboot
    obtain rfl := Option.some.inj hstep
    exact holdsOnly_boot h.stored
  · obtain ⟨d', hd, rfl⟩ := step_eq_some (fun p hp => hboot ⟨p, hp⟩) hstep
    refine ⟨?_, fun key hkey => ?_⟩
    · cases e with
      | apKeyWrite w => cases he
      | reboot p => exact absurd ⟨p, rfl⟩ hboot
      | eslAddrWrite w =>
          cases hd
          exact ram_attWrite (c := .addr) (by decide) w _ h.ram
      | eslRspKeyWrite w =>
          cases hd
          exact ram_attWrite (c := .responseKey) (by decide) w _ h.ram
      | absTimeWrite w =>
          cases hd
          exact ram_attWrite (c := .absTime) (by decide) w _ h.ram
      | _ => exact ram_of_provisioned (TagDevice.provisioned_step hd id) h.ram
    · rcases eslApKey_flashAfter he x.flash with hsame | hnone
      · exact h.stored key (hsame ▸ hkey)
      · rw [hnone] at hkey
        cases hkey

/-- The key of the access point arrives. -/
lemma HoldsOnly.apKeyWrite {key : KeyMaterial} (h : HoldsOnly (some key) x) {beyond : Mem}
    (hstep : x.step cfg ead E (.apKeyWrite ⟨.ofBytes (eslCApKeyUpdate key) beyond, 0⟩) = some y) :
    HoldsOnly (some key) y := by
  obtain ⟨d', hd, rfl⟩ := step_eq_some (by rintro _ ⟨⟩) hstep
  cases hd
  have hwritten : (x.device.tag.apKeyWrite cfg
      ⟨.ofBytes (eslCApKeyUpdate key) beyond, 0⟩).2.assoc.eslApKey = key := by
    rw [eslApKey_apKeyWrite, eslCApKeyUpdate, storedKey_keyV]
  refine ⟨fun _ => congrArg some hwritten.symm, ?_⟩
  simp only [TagDevice.flashAfter]
  split
  · exact h.stored
  · intro k hk
    rw [storedSettings_apKeySave] at hk
    exact (congrArg some hwritten).symm.trans hk

end Tags

/-! ## Runs -/

/-- A tag without a key holds whatever there is to hold. -/
lemma HoldsOnly.of_none {key? : Option KeyMaterial} {x : FlashedTag} (h : HoldsOnly none x) :
    HoldsOnly key? x where
  ram hset := nomatch h.ram hset
  stored key hkey := nomatch h.stored key hkey

namespace Installation

variable {ι : Type*} {defaults : ClientDefaults} {n n' : Installation ι} {s s' : ClientSettings}
  {flash : Flash}

/-- The access point has what it would load, and the tags have no key but that of its flash. -/
structure KeyInv (defaults : ClientDefaults) (n : Installation ι) : Prop where
  ap : ∀ s ∈ n.ap, storedClientSettings defaults n.flash = s ∧ s.eslApKey ≠ .zero
  tags : ∀ i, HoldsOnly (storedClientKey n.flash) (n.tags i)

/-- An access point that is running goes on with the same key. -/
def SameKey (n n' : Installation ι) : Prop :=
  ∀ s ∈ n.ap, ∃ s' ∈ n'.ap, s'.eslApKey = s.eslApKey

/-- The key of an access point that is running. -/
lemma KeyInv.storedClientKey (h : KeyInv defaults n) (hs : s ∈ n.ap) :
    storedClientKey n.flash = some s.eslApKey := by
  obtain ⟨hstored, hne⟩ := h.ap s hs
  rw [← hstored] at hne ⊢
  exact storedClientKey_eq hne

/-- **What an event of the access point has to leave.** -/
lemma KeyInv.withAp (h : KeyInv defaults n) (hstored : storedClientSettings defaults flash = s)
    (hne : s.eslApKey ≠ .zero)
    (hkey : ∀ key, NrfEsl.storedClientKey n.flash = some key → s.eslApKey = key) :
    KeyInv defaults (n.withAp (s, flash)) ∧ SameKey n (n.withAp (s, flash)) := by
  have hflash : NrfEsl.storedClientKey flash = some s.eslApKey := by
    rw [← hstored] at hne ⊢
    exact storedClientKey_eq hne
  refine ⟨⟨?_, ?_⟩, ?_⟩
  · rintro _ ⟨⟩
    exact ⟨hstored, hne⟩
  · intro i
    show HoldsOnly (NrfEsl.storedClientKey flash) (n.tags i)
    have hold := h.tags i
    cases hn : NrfEsl.storedClientKey n.flash with
    | none =>
        rw [hn] at hold
        exact hold.of_none
    | some key =>
        rw [hn, ← hkey key hn, ← hflash] at hold
        exact hold
  · intro t ht
    exact ⟨s, rfl, hkey _ (h.storedClientKey ht)⟩

/-- An event of a tag. -/
lemma KeyInv.setTag [DecidableEq ι] (h : KeyInv defaults n) {i : ι} {x : FlashedTag}
    (hx : HoldsOnly (NrfEsl.storedClientKey n.flash) x) :
    KeyInv defaults { n with tags := Function.update n.tags i x }
      ∧ SameKey n { n with tags := Function.update n.tags i x } := by
  refine ⟨⟨h.ap, ?_⟩, fun s hs => ⟨s, hs, rfl⟩⟩
  intro j
  dsimp only
  by_cases hj : j = i
  · subst hj
    rwa [Function.update_self]
  · rw [Function.update_of_ne hj]
    exact h.tags j

/-- **A start.** -/
lemma KeyInv.start (h : KeyInv defaults n) {start : ClientStart} (hG : n.Kept (.start start)) :
    KeyInv defaults (n.withAp (btEslClientInit defaults start n.flash))
      ∧ SameKey n (n.withAp (btEslClientInit defaults start n.flash)) := by
  obtain ⟨hinit, hreads, hdraws⟩ := hG
  rw [btEslClientInit_of_reads hinit hreads]
  cases hkey : NrfEsl.storedClientKey n.flash with
  | none =>
      obtain ⟨hsaved, hrand⟩ := hdraws hkey
      rw [if_pos rfl]
      dsimp only
      rw [if_pos hsaved]
      refine h.withAp (storedClientSettings_apKeySave hrand) hrand ?_
      intro key hsome
      rw [hkey] at hsome
      cases hsome
  | some key =>
      have hread : (storedClientSettings defaults n.flash).eslApKey = key := by
        simp [storedClientSettings, hkey]
      rw [if_neg (by simp)]
      refine h.withAp rfl (hread ▸ ne_zero_of_storedClientKey hkey) ?_
      intro key' hsome
      rw [hkey] at hsome
      exact hread.trans (Option.some.inj hsome)

/-- An event that may change the numbers, and saves them. -/
lemma KeyInv.setNumbers (h : KeyInv defaults n) (hs : s ∈ n.ap)
    (hstored : storedClientSettings defaults flash = s') (hkey : s'.eslApKey = s.eslApKey) :
    KeyInv defaults (n.withAp (s', flash)) ∧ SameKey n (n.withAp (s', flash)) := by
  refine h.withAp hstored (hkey ▸ (h.ap s hs).2) ?_
  intro key hsome
  rw [h.storedClientKey hs] at hsome
  exact hkey.trans (Option.some.inj hsome)

variable {cfg : ι → Config} {ead : Ead} {order : ι → Enumeration SettingsName (List UInt8)}

/-- At first no tag has a key. -/
lemma keyInv_boot {flash : Flash} {p : ι → EslTag.BootParam} {flashes : ι → Flash}
    (hnew : ∀ i, (storedSettings (flashes i)).eslApKey = none) :
    KeyInv defaults (boot cfg order flash p flashes) where
  ap := by rintro _ ⟨⟩
  tags i := holdsOnly_boot (by rw [hnew i]; rintro _ ⟨⟩)

/-- **Access point and tags agree**, as far as the invariant goes. -/
lemma KeyInv.keysAgree (h : KeyInv defaults n) (hl : ead.Lawful) (hs : s ∈ n.ap) :
    KeysAgree defaults ead n s := by
  have hstored := h.storedClientKey hs
  have hkey : ∀ i, (n.tags i).device.tag.assoc.configuringState.apSyncKeySet = true →
      (n.tags i).device.tag.assoc.eslApKey = s.eslApKey := by
    intro i hset
    have hram := (h.tags i).ram hset
    rw [hstored] at hram
    exact (Option.some.inj hram).symm
  refine ⟨?_, hkey, ?_⟩
  · intro start hinit hreads
    rw [btEslClientInit_of_reads hinit hreads, if_neg (by simp [hstored]), (h.ap s hs).1]
  · intro i hset payload buf stack hp hpacket
    rw [hkey i hset]
    exact (hpacket.decryptPacket hl hp stack).2

variable [DecidableEq ι]

/-- **One event.** -/
lemma KeyInv.step (h : KeyInv defaults n) {e : InstallationEvent ι} (hG : n.Kept e)
    (hstep : n.step defaults cfg ead order e = some n') : KeyInv defaults n' ∧ SameKey n n' := by
  cases e with
  | start start =>
      obtain rfl := Option.some.inj hstep
      exact h.start hG
  | tagsPerGroup argv saved =>
      obtain ⟨s, hs, rfl⟩ := Option.map_eq_some_iff.mp hstep
      have hsaved : saved = true := hG
      have hstored := (h.ap s hs).1
      rw [cmdTagsPerGroup]
      split
      · refine h.setNumbers hs ?_ rfl
        rw [storedClientSettings_tagsPerGroupSave, hstored]
      · exact h.setNumbers hs hstored rfl
  | groupsPerButton argv saved =>
      obtain ⟨s, hs, rfl⟩ := Option.map_eq_some_iff.mp hstep
      have hsaved : saved = true := hG
      have hstored := (h.ap s hs).1
      rw [ClientSettings.cmdGroupsPerButton, NrfEsl.cmdGroupsPerButton]
      by_cases hargc : argv.length > 1
      · refine h.setNumbers hs ?_ rfl
        rw [if_pos ⟨hargc, hsaved⟩, storedClientSettings_groupPerButtonSave, hstored]
      · refine h.setNumbers hs ?_ rfl
        rw [if_neg (fun hand => hargc hand.1), if_neg hargc]
        exact hstored
  | importBtKey bond keys saved load =>
      obtain ⟨s, hs, rfl⟩ := Option.map_eq_some_iff.mp hstep
      have hstored : storedClientSettings defaults (btKeysStore bond keys saved n.flash) = s :=
        (storedClientSettings_btKeysStore bond keys saved).trans (h.ap s hs).1
      rw [eslCImportBtKey, settingsLoad_stored hstored]
      exact h.setNumbers hs hstored rfl
  | resetAp bonds =>
      obtain ⟨s, hs, rfl⟩ := Option.map_eq_some_iff.mp hstep
      exact h.setNumbers hs ((storedClientSettings_btEslCResetAp bonds).trans (h.ap s hs).1) rfl
  | paired bond keys saved =>
      obtain ⟨s, hs, rfl⟩ := Option.map_eq_some_iff.mp hstep
      exact h.setNumbers hs
        ((storedClientSettings_btKeysStore bond keys saved).trans (h.ap s hs).1) rfl
  | apKeyUpdate i beyond =>
      obtain ⟨s, hs, hwrite⟩ := Option.bind_eq_some_iff.mp hstep
      obtain ⟨x, hx, rfl⟩ := Option.map_eq_some_iff.mp hwrite
      have hold := h.tags i
      rw [h.storedClientKey hs] at hold
      refine h.setTag ?_
      rw [h.storedClientKey hs]
      exact hold.apKeyWrite hx
  | tag i e =>
      obtain ⟨x, hx, rfl⟩ := Option.map_eq_some_iff.mp hstep
      exact h.setTag ((h.tags i).step hG hx)

end Installation

/-- **Access point and tags agree on the key over restarts.**  In every run in which starts read the
flash, saves succeed and nobody else writes keys, a restart of the access point changes nothing, and
every tag with a key hears it.  A start keeps the key of the flash exactly if it reads it. -/
theorem keysAgree_of_kept {ι : Type*} [DecidableEq ι] (defaults : ClientDefaults) (cfg : ι → Config)
    {ead : Ead} (hl : ead.Lawful) (order : ι → Enumeration SettingsName (List UInt8)) {flash : Flash}
    (p : ι → EslTag.BootParam) {flashes : ι → Flash}
    (hnew : ∀ i, (storedSettings (flashes i)).eslApKey = none) {es : List (InstallationEvent ι)}
    (hG : StepsMeet (Installation.step defaults cfg ead order) Installation.Kept
      (.boot cfg order flash p flashes) es) :
    AlongRun (Installation.step defaults cfg ead order)
        (fun n => ∀ s ∈ n.ap, KeysAgree defaults ead n s) (.boot cfg order flash p flashes) es
      ∧ StepsMeet (Installation.step defaults cfg ead order)
        (fun n e => ∀ n', n.step defaults cfg ead order e = some n' → n.SameKey n')
        (.boot cfg order flash p flashes) es
      ∧ ∀ start flash key, storedClientKey flash = some key →
        (KeepsKey defaults start flash key
          ↔ start.initialised = true ∧ start.read clientApKeyName = true ∨ start.rand = key) := by
  have hpreserved : PreservedUnder (Installation.step defaults cfg ead order) Installation.Kept
      (Installation.KeyInv defaults) := fun n e n' h hG hstep => (h.step hG hstep).1
  have hboot : Installation.KeyInv defaults (.boot cfg order flash p flashes) :=
    Installation.keyInv_boot hnew
  refine ⟨?_, ?_, fun start flash key hkey => keepsKey_iff hkey⟩
  · exact (alongRun_of_stepsMeet hpreserved hboot hG).imp fun n h s hs =>
      Installation.KeyInv.keysAgree h hl hs
  · exact hG.strengthen hpreserved (fun n e _ h hG _ n' hstep => (h.step hG hstep).2) hboot

/-! ### Two tags, three starts -/

def readsAll (rand : KeyMaterial) : ClientStart where
  order := .stored _ _
  read _ := true
  initialised := true
  rand := rand
  saved := true

/-- A tag gets the key and restarts, the access point restarts twice, and another tag gets the key. -/
def restartedTwice : List (InstallationEvent Bool) :=
  [ .start (readsAll Ead.Sample.key), .apKeyUpdate false (fun _ => 0), .tag false (.reboot {})
  , .tagsPerGroup ["tags_per_group".toList, "7".toList] true, .start (readsAll .zero)
  , .paired ["c0ffee"] [1, 2, 3] true, .resetAp [["c0ffee"]], .start (readsAll .zero)
  , .apKeyUpdate true (fun _ => 0) ]

theorem keysAgree_restartedTwice :
    AlongRun (Installation.step ⟨16, 1⟩ (fun _ => .sample) .clear fun _ => .stored _ _)
        (fun n => ∀ s ∈ n.ap, KeysAgree ⟨16, 1⟩ .clear n s)
        (.boot (fun _ : Bool => .sample) (fun _ => .stored _ _) ∅ (fun _ => {}) fun _ => ∅)
        restartedTwice
      ∧ (run (Installation.step ⟨16, 1⟩ (fun _ => .sample) .clear fun _ => .stored _ _)
          (.boot (fun _ : Bool => .sample) (fun _ => .stored _ _) ∅ (fun _ => {}) fun _ => ∅)
          restartedTwice).map (fun n => (n.ap, (n.tags false).device.tag.assoc.eslApKey,
            (n.tags true).device.tag.assoc.eslApKey))
        = some (some ⟨Ead.Sample.key, 7, 1⟩, Ead.Sample.key, Ead.Sample.key) := by
  refine ⟨?_, by decide +kernel⟩
  exact (keysAgree_of_kept ⟨16, 1⟩ (fun _ => .sample) Ead.lawful_clear _ _ (fun _ => rfl)
    (by decide +kernel)).1

end NrfEsl
