import NrfEsl.Gui.TlvGenerator
import NrfEsl.TagRecord

/-!
# The response keys of the TLV generator

At its start the tool reads the files of `TAG_DB_FOLDER`, a copy of the ESL address files of the
access point, into `RSP_KEY_LIST`: under the number that the name of the file is, bytes 7 to 30 of it.
`esl_addr_changed` looks up the key of the address that is typed.

`loadRspKeys_file` says what the loop leaves for each address, whatever the order of the folder.
-/

namespace NrfEsl

open Text TagFiles

/-- An entry of `TAG_DB_FOLDER`.  What is no file has no content. -/
structure TagDbEntry where
  name : List Char
  content : Option (List UInt8)

/-- `RSP_KEY_LIST` -/
abbrev RspKeyList := ℕ → Option (List UInt8)

/-- The loop of `MainWindow.__init__`.  A name that is no number raises an exception. -/
def loadRspKeys : List TagDbEntry → RspKeyList → Option RspKeyList
  | [], keys => some keys
  | e :: entries, keys =>
      match e.content with
      | none => loadRspKeys entries keys
      | some data =>
          (guiRspKey e.name data).bind fun p =>
            loadRspKeys entries (Function.update keys p.1 (some p.2))

/-- The index into `RSP_KEY_LIST`. -/
def lookupIndex (groupId eslId : ℕ) : ℕ := ((groupId &&& 0xff) <<< 4) ||| (eslId &&& 0xff)

/-- `esl_addr_changed` -/
def eslAddrChanged (keys : RspKeyList) (f : TlvFields) : Option TlvFields :=
  match number? 16 f.txtGroupId, number? 16 f.txtEslId with
  | some groupId, some eslId =>
      some { f with
        txtRespKey :=
          match keys (lookupIndex groupId eslId) with
          | some key => toHex key
          | none => ['0'] }
  | _, _ => none

/-! ## The folder -/

/-- The content of the file of a name. -/
def fileNamed (entries : List TagDbEntry) (name : List Char) : Option (List UInt8) :=
  (entries.find? (·.name = name)).bind (·.content)

/-- A folder of tag files, in the order in which it is listed.  Each file has the name of an ESL
address; no name occurs twice. -/
structure TagDb where
  entries : List TagDbEntry
  named : ∀ e ∈ entries, e.content ≠ none → ∃ eslAddr, e.name = eslAddrToStr eslAddr
  nodup : (entries.map (·.name)).Nodup

/-- The file of an address. -/
def TagDb.file (db : TagDb) (eslAddr : UInt16) : Option (List UInt8) :=
  fileNamed db.entries (eslAddrToStr eslAddr)

/-- The response key of a file: behind the address of the tag and its type. -/
def fileKey (data : List UInt8) : List UInt8 := (data.drop 7).take 24

lemma eslAddrToStr_injective {a b : UInt16} (h : eslAddrToStr a = eslAddrToStr b) : a = b := by
  have hnumber := congrArg (number? 16) h
  rw [number?_eslAddrToStr, number?_eslAddrToStr] at hnumber
  exact UInt16.toNat_inj.mp (Option.some.inj hnumber)

lemma guiRspKey_eslAddrToStr (eslAddr : UInt16) (data : List UInt8) :
    guiRspKey (eslAddrToStr eslAddr) data = some (eslAddr.toNat, fileKey data) := by
  rw [guiRspKey, number?_eslAddrToStr, Option.map_some, List.drop_take]
  rfl

lemma fileNamed_cons (e : TagDbEntry) (entries : List TagDbEntry) (name : List Char) :
    fileNamed (e :: entries) name = if e.name = name then e.content else fileNamed entries name := by
  by_cases h : e.name = name
  · rw [if_pos h, fileNamed, List.find?_cons_of_pos (by simpa using h), Option.bind_some]
  · rw [if_neg h, fileNamed, List.find?_cons_of_neg (by simpa using h), fileNamed]

lemma fileNamed_of_notMem {entries : List TagDbEntry} {name : List Char}
    (h : name ∉ entries.map (·.name)) : fileNamed entries name = none := by
  have hfind : entries.find? (·.name = name) = none := by
    refine List.find?_eq_none.mpr fun e he hname => ?_
    exact h (List.mem_map.mpr ⟨e, he, of_decide_eq_true hname⟩)
  rw [fileNamed, hfind, Option.bind_none]

/-- What the loop leaves for an address: the key of its file, or what was there. -/
lemma loadRspKeys_entries (entries : List TagDbEntry) (keys : RspKeyList)
    (hnamed : ∀ e ∈ entries, e.content ≠ none → ∃ eslAddr, e.name = eslAddrToStr eslAddr)
    (hnodup : (entries.map (·.name)).Nodup) :
    ∃ keys', loadRspKeys entries keys = some keys' ∧ ∀ eslAddr : UInt16,
      keys' eslAddr.toNat
        = ((fileNamed entries (eslAddrToStr eslAddr)).map fileKey).or (keys eslAddr.toNat) := by
  induction entries generalizing keys with
  | nil => exact ⟨keys, rfl, fun _ => rfl⟩
  | cons e entries ih =>
      rw [List.map_cons, List.nodup_cons] at hnodup
      have hrest : ∀ e' ∈ entries, e'.content ≠ none → ∃ eslAddr, e'.name = eslAddrToStr eslAddr :=
        fun e' he' => hnamed e' (List.mem_cons_of_mem e he')
      rcases hcontent : e.content with _ | data
      · obtain ⟨keys', hload, hkeys⟩ := ih keys hrest hnodup.2
        refine ⟨keys', by rw [loadRspKeys, hcontent]; exact hload, fun eslAddr => ?_⟩
        rw [hkeys, fileNamed_cons]
        split
        · rename_i hname
          rw [fileNamed_of_notMem (hname ▸ hnodup.1), hcontent]
        · rfl
      · obtain ⟨fileAddr, hfile⟩ :=
          hnamed e List.mem_cons_self (by rw [hcontent]; exact Option.some_ne_none _)
        obtain ⟨keys', hload, hkeys⟩ :=
          ih (Function.update keys fileAddr.toNat (some (fileKey data))) hrest hnodup.2
        refine ⟨keys', ?_, fun eslAddr => ?_⟩
        · rw [loadRspKeys, hcontent]
          dsimp only
          rw [hfile, guiRspKey_eslAddrToStr]
          exact hload
        · rw [hkeys, fileNamed_cons, hfile]
          by_cases heq : fileAddr = eslAddr
          · subst heq
            rw [if_pos rfl, fileNamed_of_notMem (hfile ▸ hnodup.1), hcontent, Function.update_self]
            rfl
          · rw [if_neg fun hname => heq (eslAddrToStr_injective hname),
              Function.update_of_ne fun hnat => heq (UInt16.toNat_inj.mp hnat).symm]

/-- **The table holds the key of each file**, under its address. -/
theorem TagDb.loadRspKeys_file (db : TagDb) :
    ∃ keys, loadRspKeys db.entries (fun _ => none) = some keys
      ∧ ∀ eslAddr : UInt16, keys eslAddr.toNat = (db.file eslAddr).map fileKey := by
  obtain ⟨keys, hload, hkeys⟩ := loadRspKeys_entries db.entries (fun _ => none) db.named db.nodup
  refine ⟨keys, hload, fun eslAddr => ?_⟩
  rw [hkeys, Option.or_none, TagDb.file]

end NrfEsl
