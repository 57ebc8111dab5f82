import NrfEsl.GeneratedCommand
import NrfEsl.Gui.RspKeyList

/-!
# The key that the tool shows

The address of a tag has the group in its high byte; `esl_addr_changed` shifts the group by 4 bits
only.  So the low half of the group falls on the high half of the ESL ID, and the group is looked for
4 bits too low.

* **Who shares an entry** (`ownEntry_iff`): all pairs, but those of a group that is a multiple of 16
  with an ESL ID below 16.
* **What is shown** (`showsKey_iff`): the right key in group 0, and in another group only by chance.

Together: the look-up is right for group 0 and ESL IDs below 16 (`keyLookup_iff_forall`).
-/

namespace NrfEsl

open Text TagFiles

/-! ## Specification -/

/-- The ESL address of a pair. -/
def eslAddrOf (groupId eslId : ℕ) : UInt16 := UInt16.ofNat (groupId <<< 8 ||| eslId)

/-- The window at the start has read the keys.  Then it shows the key of the tag when the pair is
typed, and `0` if and only if there is no file. -/
def ShowsKey (db : TagDb) (groupId eslId : ℕ) : Prop :=
  ∃ keys, loadRspKeys db.entries (fun _ => none) = some keys ∧
    ∀ f : TlvFields, number? 16 f.txtGroupId = some groupId → number? 16 f.txtEslId = some eslId →
      ∃ f', eslAddrChanged keys f = some f'
        ∧ (∀ data, db.file (eslAddrOf groupId eslId) = some data →
            f'.txtRespKey = toHex (fileKey data))
        ∧ (f'.txtRespKey = ['0'] ↔ db.file (eslAddrOf groupId eslId) = none)

/-- No other pair uses the entry. -/
def OwnEntry (groupId eslId : ℕ) : Prop :=
  ∀ groupId' eslId', groupId' ≤ 127 → eslId' ≤ 255 →
    lookupIndex groupId' eslId' = lookupIndex groupId eslId → groupId' = groupId ∧ eslId' = eslId

/-- The look-up of a pair is right. -/
structure KeyLookup (db : TagDb) (groupId eslId : ℕ) : Prop where
  shows : ShowsKey db groupId eslId
  own : OwnEntry groupId eslId

/-! ## The index -/

variable {groupId eslId : ℕ}

/-- **The index**: the high half of the ESL ID is mixed into the group. -/
lemma lookupIndex_eq (hgroup : groupId ≤ 127) (hid : eslId ≤ 255) :
    lookupIndex groupId eslId = (groupId ||| eslId / 16) * 16 + eslId % 16 := by
  have hmask : ∀ n, n ≤ 255 → n &&& 0xff = n := by
    intro n hn
    have hmod : n &&& (2 ^ 8 - 1) = n % 2 ^ 8 := Nat.and_two_pow_sub_one_eq_mod n 8
    exact hmod.trans (Nat.mod_eq_of_lt (by omega))
  have hlow : eslId % 16 < 2 ^ 4 := Nat.mod_lt _ (by decide)
  have hsplit : eslId = (eslId / 16) <<< 4 ||| eslId % 16 := by
    rw [← Nat.shiftLeft_add_eq_or_of_lt hlow, Nat.shiftLeft_eq]
    omega
  rw [lookupIndex, hmask _ (by omega), hmask _ hid]
  conv_lhs => rw [hsplit]
  rw [← Nat.or_assoc, ← Nat.shiftLeft_or_distrib, ← Nat.shiftLeft_add_eq_or_of_lt hlow,
    Nat.shiftLeft_eq]

/-- It is the number of a file. -/
lemma toNat_lookupIndex (hgroup : groupId ≤ 127) (hid : eslId ≤ 255) :
    (UInt16.ofNat (lookupIndex groupId eslId)).toNat = lookupIndex groupId eslId := by
  have hor : groupId ||| eslId / 16 < 2 ^ 7 := Nat.or_lt_two_pow (by omega) (by omega)
  rw [UInt16.toNat_ofNat', lookupIndex_eq hgroup hid]
  exact Nat.mod_eq_of_lt (by omega)

lemma toNat_eslAddrOf (hgroup : groupId ≤ 127) (hid : eslId ≤ 255) :
    (eslAddrOf groupId eslId).toNat = groupId * 256 + eslId := by
  have hlt : eslId < 2 ^ 8 := by omega
  rw [eslAddrOf, ← Nat.shiftLeft_add_eq_or_of_lt hlt, Nat.shiftLeft_eq, UInt16.toNat_ofNat']
  exact Nat.mod_eq_of_lt (by omega)

/-- The half of a group that is put on the ESL ID. -/
lemma group_or (g : ℕ) : g / 16 * 16 ||| g % 16 = g := by
  have hlow : g % 16 < 2 ^ 4 := Nat.mod_lt _ (by decide)
  have hor := Nat.shiftLeft_add_eq_or_of_lt hlow (g / 16)
  rw [Nat.shiftLeft_eq] at hor
  exact hor.symm.trans (Nat.div_add_mod' g 16)

/-- **Who has an entry of its own.** -/
theorem ownEntry_iff (hgroup : groupId ≤ 127) (hid : eslId ≤ 255) :
    OwnEntry groupId eslId ↔ groupId % 16 = 0 ∧ eslId < 16 := by
  constructor
  · intro h
    have hid' : eslId < 16 := by
      -- the pair with the ID's high half moved into the group
      have hor : groupId ||| eslId / 16 < 2 ^ 7 := Nat.or_lt_two_pow (by omega) (by omega)
      have hsame : lookupIndex (groupId ||| eslId / 16) (eslId % 16)
          = lookupIndex groupId eslId := by
        rw [lookupIndex_eq (by omega) (by omega), lookupIndex_eq hgroup hid,
          Nat.div_eq_of_lt (Nat.mod_lt eslId (by decide)), Nat.or_zero, Nat.mod_mod]
      have hpair := (h _ _ (by omega) (by omega) hsame).2
      have hlt := Nat.mod_lt eslId (by decide : 0 < 16)
      omega
    refine ⟨?_, hid'⟩
    -- the pair with the group's low half moved into the ID
    have hlow := Nat.mod_lt groupId (by decide : 0 < 16)
    have hsame : lookupIndex (groupId / 16 * 16) (groupId % 16 * 16 + eslId)
        = lookupIndex groupId eslId := by
      have hhigh : (groupId % 16 * 16 + eslId) / 16 = groupId % 16 := by omega
      have hrest : (groupId % 16 * 16 + eslId) % 16 = eslId % 16 := by omega
      rw [lookupIndex_eq (by omega) (by omega), lookupIndex_eq hgroup hid, hhigh, hrest, group_or,
        Nat.div_eq_of_lt hid', Nat.or_zero]
    have hpair := (h _ _ (by omega) (by omega) hsame).1
    omega
  · rintro ⟨hzero, hid'⟩ g id hg hid'' hsame
    rw [lookupIndex_eq hg hid'', lookupIndex_eq hgroup hid, Nat.div_eq_of_lt hid', Nat.or_zero]
      at hsame
    have hor : g ||| id / 16 = groupId := by omega
    have hmod : g % 2 ^ 4 ||| id / 16 % 2 ^ 4 = 0 := by
      rw [← Nat.or_mod_two_pow, hor]
      exact hzero
    obtain ⟨-, hhalf⟩ := Nat.or_eq_zero_iff.mp hmod
    have hnone : id / 16 = 0 := by omega
    rw [hnone, Nat.or_zero] at hor
    exact ⟨hor, by omega⟩

/-- The index of a tag is its address in group 0 only. -/
lemma lookupIndex_eq_iff (hgroup : groupId ≤ 127) (hid : eslId ≤ 255) :
    lookupIndex groupId eslId = (eslAddrOf groupId eslId).toNat ↔ groupId = 0 := by
  rw [lookupIndex_eq hgroup hid, toNat_eslAddrOf hgroup hid]
  constructor
  · intro h
    by_contra hpos
    have hdiv : (groupId ||| eslId / 16) / 16 = groupId / 16 := by
      have hor := Nat.or_div_two_pow (a := groupId) (b := eslId / 16) (n := 4)
      rw [Nat.div_eq_of_lt (by omega : eslId / 16 < 2 ^ 4), Nat.or_zero] at hor
      exact hor
    omega
  · rintro rfl
    rw [Nat.zero_or]
    omega

/-! ## What is shown -/

/-- No key is shown as `0`: it has an even number of digits. -/
lemma toHex_ne_zero (key : List UInt8) : toHex key ≠ ['0'] := by
  intro h
  have hlen := congrArg List.length h
  rw [length_toHex, List.length_singleton] at hlen
  omega

lemma toHex_inj {key key' : List UInt8} : toHex key = toHex key' ↔ key = key' := by
  constructor
  · intro h
    have hread := congrArg ofHex? h
    rw [ofHex?_toHex, ofHex?_toHex] at hread
    exact Option.some.inj hread
  · rintro rfl
    rfl

/-- What the window shows for an entry. -/
def shownKey (key? : Option (List UInt8)) : List Char :=
  match key? with
  | some key => toHex key
  | none => ['0']

/-- An entry is shown like a file if and only if it is the key of the file. -/
lemma shownKey_iff (key? file? : Option (List UInt8)) :
    (∀ data, file? = some data → shownKey key? = toHex (fileKey data))
        ∧ (shownKey key? = ['0'] ↔ file? = none)
      ↔ key? = file?.map fileKey := by
  rcases key? with _ | key
  · rcases file? with _ | data
    · exact iff_of_true ⟨fun _ h => (Option.some_ne_none _ h.symm).elim, iff_of_true rfl rfl⟩ rfl
    · refine iff_of_false (fun h => ?_) (Option.some_ne_none _).symm
      exact Option.some_ne_none data (h.2.mp rfl)
  · rcases file? with _ | data
    · refine iff_of_false (fun h => ?_) (Option.some_ne_none _)
      exact toHex_ne_zero key (h.2.mpr rfl)
    · rw [Option.map_some, Option.some_inj]
      constructor
      · rintro ⟨hkey, -⟩
        exact toHex_inj.mp (hkey data rfl)
      · rintro rfl
        refine ⟨fun data' h => ?_, iff_of_false (toHex_ne_zero _) (Option.some_ne_none _)⟩
        rw [Option.some.inj h]
        rfl

/-- A tool in which a pair has been typed. -/
def typedFields (f : TlvFields) (groupId eslId : List Char) : TlvFields :=
  { f with txtGroupId := groupId, txtEslId := eslId }

lemma exists_text {n : ℕ} (hn : n ≤ 255) : ∃ text, number? 16 text = some n := by
  refine ⟨eslAddrToStr (UInt16.ofNat n), (number?_eslAddrToStr _).trans ?_⟩
  rw [UInt16.toNat_ofNat', Nat.mod_eq_of_lt (by omega)]

/-- **When the right key is shown**: the file that is found holds the key of the file that is meant. -/
theorem showsKey_iff (db : TagDb) (hgroup : groupId ≤ 127) (hid : eslId ≤ 255) :
    ShowsKey db groupId eslId
      ↔ (db.file (UInt16.ofNat (lookupIndex groupId eslId))).map fileKey
        = (db.file (eslAddrOf groupId eslId)).map fileKey := by
  obtain ⟨keys, hload, hkeys⟩ := db.loadRspKeys_file
  rw [← hkeys, toNat_lookupIndex hgroup hid, ← shownKey_iff]
  have hchanged : ∀ f : TlvFields, number? 16 f.txtGroupId = some groupId →
      number? 16 f.txtEslId = some eslId →
      eslAddrChanged keys f
        = some { f with txtRespKey := shownKey (keys (lookupIndex groupId eslId)) } := by
    intro f hf hf'
    rw [eslAddrChanged, hf, hf']
    rfl
  constructor
  · rintro ⟨keys', hload', hshows⟩
    rw [hload] at hload'
    cases hload'
    obtain ⟨groupText, hgroupText⟩ := exists_text (by omega : groupId ≤ 255)
    obtain ⟨idText, hidText⟩ := exists_text hid
    obtain ⟨f', hf', hshown⟩ :=
      hshows (typedFields (pingFields []) groupText idText) hgroupText hidText
    rw [hchanged _ hgroupText hidText] at hf'
    cases hf'
    exact hshown
  · intro hshown
    refine ⟨keys, hload, fun f hf hf' => ⟨_, hchanged f hf hf', hshown⟩⟩

/-- **When the look-up of a pair is right**: the ESL ID is below 16, and the group is 0; or a multiple
of 16, and by chance the files of two tags hold the same key, or both are missing. -/
theorem keyLookup_iff (db : TagDb) (hgroup : groupId ≤ 127) (hid : eslId ≤ 255) :
    KeyLookup db groupId eslId
      ↔ (groupId % 16 = 0 ∧ eslId < 16)
        ∧ (groupId = 0 ∨ (db.file (UInt16.ofNat (groupId * 16 + eslId))).map fileKey
          = (db.file (UInt16.ofNat (groupId * 256 + eslId))).map fileKey) := by
  have hparts : KeyLookup db groupId eslId
      ↔ OwnEntry groupId eslId ∧ ShowsKey db groupId eslId :=
    ⟨fun h => ⟨h.own, h.shows⟩, fun h => ⟨h.2, h.1⟩⟩
  rw [hparts, ownEntry_iff hgroup hid]
  refine and_congr_right fun hown => ?_
  have hindex : lookupIndex groupId eslId = groupId * 16 + eslId := by
    rw [lookupIndex_eq hgroup hid, Nat.div_eq_of_lt hown.2, Nat.or_zero, Nat.mod_eq_of_lt hown.2]
  have haddr : eslAddrOf groupId eslId = UInt16.ofNat (groupId * 256 + eslId) := by
    rw [← UInt16.ofNat_toNat (x := eslAddrOf groupId eslId), toNat_eslAddrOf hgroup hid]
  rw [showsKey_iff db hgroup hid, hindex, haddr]
  constructor
  · exact fun h => .inr h
  · rintro (rfl | h)
    · rfl
    · exact h

/-- A folder of one file. -/
def TagDb.single (eslAddr : UInt16) (data : List UInt8) : TagDb where
  entries := [⟨eslAddrToStr eslAddr, some data⟩]
  named := by
    intro e he _
    rw [List.mem_singleton.mp he]
    exact ⟨eslAddr, rfl⟩
  nodup := List.nodup_singleton _

lemma file_single (eslAddr eslAddr' : UInt16) (data : List UInt8) :
    (TagDb.single eslAddr data).file eslAddr' = if eslAddr = eslAddr' then some data else none := by
  rw [TagDb.file, TagDb.single, fileNamed_cons]
  by_cases h : eslAddr = eslAddr'
  · rw [if_pos h, if_pos (congrArg eslAddrToStr h)]
  · rw [if_neg h, if_neg fun hname => h (eslAddrToStr_injective hname)]
    rfl

/-- A tag whose file is the only one is found in group 0 only. -/
lemma not_showsKey_single (hgroup : groupId ≤ 127) (hid : eslId ≤ 255) (hne : groupId ≠ 0) :
    ¬ ShowsKey (.single (eslAddrOf groupId eslId) []) groupId eslId := by
  rw [showsKey_iff _ hgroup hid, file_single, file_single, if_pos rfl, if_neg]
  · exact (Option.some_ne_none _).symm
  · intro hsame
    refine hne ((lookupIndex_eq_iff hgroup hid).mp ?_)
    rw [hsame, toNat_lookupIndex hgroup hid]

/-- **In every folder** the look-up is right for group 0 and ESL IDs below 16. -/
theorem keyLookup_iff_forall (hgroup : groupId ≤ 127) (hid : eslId ≤ 255) :
    (∀ db, KeyLookup db groupId eslId) ↔ groupId = 0 ∧ eslId < 16 := by
  constructor
  · intro h
    have hown := (ownEntry_iff hgroup hid).mp (h (.single 0 [])).own
    refine ⟨?_, hown.2⟩
    by_contra hne
    exact not_showsKey_single hgroup hid hne (h _).shows
  · rintro ⟨rfl, hlow⟩ db
    refine ⟨(showsKey_iff db hgroup hid).mpr ?_, (ownEntry_iff hgroup hid).mpr ⟨rfl, hlow⟩⟩
    rw [(lookupIndex_eq_iff hgroup hid).mpr rfl, UInt16.ofNat_toNat]

/-- The tag of group 0 and ESL ID 5 in a folder with its file. -/
theorem keyLookup_iff_own : KeyLookup (.single 5 []) 0 5 :=
  (keyLookup_iff (.single 5 []) (by decide : 0 ≤ 127) (by decide : 5 ≤ 255)).mpr
    ⟨by decide, .inl rfl⟩

/-- In group 1 a tag with a file is shown as one that has none. -/
theorem not_keyLookup : ¬ KeyLookup (.single (eslAddrOf 1 0) []) 1 0 :=
  fun h => not_showsKey_single (by decide) (by decide) (by decide) h.shows

end NrfEsl
