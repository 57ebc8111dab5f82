import NrfEsl.Ap.TagStorage
import NrfEsl.Lib.FileSession
import NrfEsl.Lib.Text

/-!
# The files of the tag database

The same functions as in `TagStorage`, one level below: a file is its bytes, and a call may fail.
`esl_client_tag_storage.c` has one shape for all of them, `tagSession`: open the file, look up its size,
go through it, close it.  No function looks at what a read or a write answers.

Every build with `CONFIG_BT_ESL_TAG_BT_KEY_STORAGE` keeps the bond key in the file of the Bluetooth
address, behind the type.
-/

namespace NrfEsl

open FileSession

/-! ## Paths -/

/-- `CONFIG_MCUMGR_GRP_FS_PATH_LEN`, left at its default. -/
def mcumgrGrpFsPathLen : ℕ := 100

/-- `TAG_BLE_ADDR_ROOT` -/
def tagBleAddrRoot : List Char := "/ots_image/ble".toList
/-- `TAG_ESL_ADDR_ROOT` -/
def tagEslAddrRoot : List Char := "/ots_image/esl".toList

/-- `bt_addr_to_str` -/
def btAddrToStr (a : BtAddr) : List Char :=
  ((a.toList.reverse.map fun b => (Text.hexByte b).map Char.toUpper).intersperse [':']).flatten

/-- `"%04x"` -/
def eslAddrToStr (eslAddr : UInt16) : List Char := Text.toHex [highByte eslAddr, lowByte eslAddr]

/-- `snprintk` of `"%s/%s"`. -/
def tagPath (root name : List Char) : List Char :=
  (root ++ '/' :: name).take (mcumgrGrpFsPathLen - 1)

/-- The files, by their paths. -/
abbrev TagFiles := List Char → Option (List UInt8)

namespace TagFiles

def blePath (a : BtAddr) : List Char := tagPath tagBleAddrRoot (btAddrToStr a)

def eslPath (eslAddr : UInt16) : List Char := tagPath tagEslAddrRoot (eslAddrToStr eslAddr)

lemma take_tagPath {root : List Char} (h : root.length = 14) (name : List Char) :
    (tagPath root name).take 14 = root := by
  have hlen : min 14 (mcumgrGrpFsPathLen - 1) = root.length := by
    rw [h]
    rfl
  rw [tagPath, List.take_take, hlen, List.take_left]

/-- The two directories have no path in common. -/
lemma blePath_ne_eslPath (a : BtAddr) (eslAddr : UInt16) : blePath a ≠ eslPath eslAddr := by
  intro h
  have htake := congrArg (List.take 14) h
  rw [blePath, eslPath, take_tagPath rfl, take_tagPath rfl] at htake
  exact absurd htake (by decide)

/-! ## One session -/

/-- `FS_O_CREATE | FS_O_RDWR` and `FS_O_READ`. -/
inductive OpenMode
  | create | read
  deriving DecidableEq, Repr

/-- What a session leaves: `rc` where the function closes the file, what `fs_close` answers there, what has
been transferred if it has come so far, and the file. -/
structure SessionResult (α : Type) where
  rc : ℤ
  closed : ℤ
  value : Option α
  file : Option (List UInt8)

/-- From `fs_open` to `fs_close`.  Closing a file that is not open answers 0; a reader closes an empty file
as it is. -/
def tagSession {α : Type} (f : Faults) (mode : OpenMode) (body : Stream → α × Stream)
    (file : Option (List UInt8)) : SessionResult α :=
  if f.opened.val < 0 then ⟨f.opened.val, 0, none, file⟩
  else if mode = .read ∧ file = none then ⟨FileSystem.enoent, 0, none, none⟩
  else
    let bytes := file.getD []
    if f.looked.val < 0 then ⟨f.looked.val, f.closed.val, none, some bytes⟩
    else if mode = .read ∧ bytes = [] then ⟨FileSystem.enoent, f.closed.val, none, some bytes⟩
    else
      let r := body (.start bytes)
      ⟨0, f.closed.val, some r.1, some r.2.bytes⟩

/-- What the `i`-th `fs_read` has delivered. -/
def SessionResult.got (r : SessionResult (List (List UInt8))) (i : ℕ) : List UInt8 :=
  (r.value.getD []).getD i []

/-! ## `save_tag_in_storage` -/

/-- The writes to the file of the Bluetooth address. -/
def bleChunks (tag : EslChrcData) (btKey : List UInt8) : List (List UInt8) :=
  [[lowByte tag.eslAddr, highByte tag.eslAddr], tag.eslRspKey.keyV, [tag.bleAddr.type], btKey]

/-- The writes to the file of the ESL address. -/
def eslChunks (tag : EslChrcData) : List (List UInt8) :=
  [tag.bleAddr.a.toList, [tag.bleAddr.type], tag.eslRspKey.keyV,
    [lowByte tag.pnpVid, highByte tag.pnpVid], [lowByte tag.pnpPid, highByte tag.pnpPid]]

/-- What it returns, the files, and its two sessions. -/
structure SaveResult where
  ret : ℤ
  files : TagFiles
  ble : SessionResult (List ℕ)
  esl : Option (SessionResult (List ℕ))

/-- `save_tag_in_storage`, with the failures of its sessions and what `bt_keys_find_addr` finds. -/
def saveTagInStorage (f₁ f₂ : Faults) (btKey : List UInt8) (tag : EslChrcData) (files : TagFiles) :
    SaveResult :=
  let ble := tagSession f₁ .create (Stream.writeAll f₁ (bleChunks tag btKey))
    (files (blePath tag.bleAddr.a))
  let files := Function.update files (blePath tag.bleAddr.a) ble.file
  if ble.rc < 0 then ⟨ble.closed, files, ble, none⟩
  else
    let esl := tagSession f₂ .create (Stream.writeAll f₂ (eslChunks tag)) (files (eslPath tag.eslAddr))
    ⟨esl.closed, Function.update files (eslPath tag.eslAddr) esl.file, ble, some esl⟩

/-! ## The readers -/

/-- Two bytes of a variable, after a read into it. -/
def read16 (old : UInt16) (got : List UInt8) : UInt16 :=
  sysGetLe16 ((Mem.ofBytes [lowByte old, highByte old] fun _ => 0).write 0 got) 0

def readKey (old : KeyMaterial) (got : List UInt8) : KeyMaterial :=
  .ofKeyV ((Mem.ofBytes old.keyV fun _ => 0).write 0 got)

def readAddr (old : BtAddr) (got : List UInt8) : BtAddr :=
  Vector.ofFn fun i => (Mem.ofBytes old.toList fun _ => 0).write 0 got i

/-- The session of `load_tag_in_storage`. -/
def loadTagSession (f : Faults) (bleAddr : BtAddrLe) (files : TagFiles) :
    SessionResult (List (List UInt8)) :=
  tagSession f .read (Stream.readAll f [2, 24]) (files (blePath bleAddr.a))

/-- `load_tag_in_storage` -/
def loadTagInStorage (f : Faults) (bleAddr : BtAddrLe) (tag : EslChrcData) (files : TagFiles) :
    ℤ × EslChrcData :=
  let r := loadTagSession f bleAddr files
  (r.closed, { tag with
    eslAddr := read16 tag.eslAddr (r.got 0)
    eslRspKey := readKey tag.eslRspKey (r.got 1)
    pastNeeded := if r.value.isSome ∧ tag.connectFrom = .fromScan then true else tag.pastNeeded })

/-- `find_tag_in_storage_with_esl_addr` -/
def findTagInStorageWithEslAddr (f : Faults) (eslAddr : UInt16) (bleAddr : BtAddrLe)
    (files : TagFiles) : ℤ × BtAddrLe :=
  let r := tagSession f .read (Stream.readAll f [6, 1]) (files (eslPath eslAddr))
  (r.rc, ⟨(r.got 1).headD bleAddr.type, readAddr bleAddr.a (r.got 0)⟩)

/-- `find_tag_in_storage_with_ble_addr` -/
def findTagInStorageWithBleAddr (f : Faults) (bleAddr : BtAddrLe) (eslAddr : UInt16)
    (files : TagFiles) : ℤ × UInt16 :=
  let r := tagSession f .read (Stream.readAll f [2]) (files (blePath bleAddr.a))
  (r.rc, read16 eslAddr (r.got 0))

/-- Where the key stands in `struct bt_keys`, and its length `BT_KEYS_STORAGE_LEN`. -/
structure BtKeysLayout where
  storageStart : ℕ
  storageLen : ℕ

/-- The part of `struct bt_keys` that is read. -/
structure BtKeys where
  id : UInt8
  addr : BtAddrLe
  storage : Mem

/-- `memset(key, 0, BT_KEYS_STORAGE_LEN)`, from the beginning of the structure. -/
def BtKeys.clear (layout : BtKeysLayout) (key : BtKeys) : BtKeys where
  id := 0
  addr := ⟨0, Vector.replicate 6 0⟩
  storage := key.storage.write 0 (List.replicate (layout.storageLen - layout.storageStart) 0)

/-- `ESL_BT_KEY_OFFSET` -/
def eslBtKeyOffset : ℕ := 2 + 24 + 1

/-- The session of `load_bt_key_in_storage`. -/
def loadBtKeySession (f : Faults) (layout : BtKeysLayout) (bleAddr : BtAddrLe) (files : TagFiles) :
    SessionResult (List (List UInt8)) :=
  tagSession f .read (fun s => (s.seek f eslBtKeyOffset).readAll f [layout.storageLen])
    (files (blePath bleAddr.a))

/-- `load_bt_key_in_storage`; `BT_ID_DEFAULT` is 0. -/
def loadBtKeyInStorage (f : Faults) (layout : BtKeysLayout) (bleAddr : BtAddrLe) (key : BtKeys)
    (files : TagFiles) : ℤ × BtKeys :=
  let r := loadBtKeySession f layout bleAddr files
  let key := key.clear layout
  (r.closed, { key with
    addr := if r.value.isSome then bleAddr else key.addr
    storage := key.storage.write 0 (r.got 0) })

/-- The key that `esl_c_connect` hands to `bt_keys_store`, if it does; `freeConnIdx` is what
`esl_c_get_free_conn_idx` answers. -/
def connectImports (f : Faults) (layout : BtKeysLayout) (freeConnIdx : ℤ) (peerAddr : BtAddrLe)
    (btKey : BtKeys) (files : TagFiles) : Option BtKeys :=
  if freeConnIdx = -1 then none
  else
    let r := loadBtKeyInStorage f layout peerAddr btKey files
    if r.1 = 0 then some r.2 else none

/-- A file of `TAG_DB_FOLDER`, in `MainWindow.__init__`: the index in `RSP_KEY_LIST` and the key. -/
def guiRspKey (filename : List Char) (data : List UInt8) : Option (ℕ × List UInt8) :=
  (Text.number? 16 filename).map fun eslAddr => (eslAddr, (data.take 31).drop 7)

/-! ## A session that works -/

section Session

variable {α : Type} {f : Faults} {mode : OpenMode} {body : Stream → α × Stream}
  {file : Option (List UInt8)}

/-- A session closes the file it has opened. -/
def FileOpened (f : Faults) (mode : OpenMode) (file : Option (List UInt8)) : Prop :=
  f.opened.val = 0 ∧ (mode = .read → file ≠ none)

/-- A session comes to its transfers. -/
structure Reached (f : Faults) (mode : OpenMode) (file : Option (List UInt8)) : Prop where
  opened : f.opened.val = 0
  looked : f.looked.val = 0
  stored : mode = .read → file.getD [] ≠ []

lemma tagSession_of_reached (h : Reached f mode file) :
    tagSession f mode body file
      = ⟨0, f.closed.val, some (body (.start (file.getD []))).1,
          some (body (.start (file.getD []))).2.bytes⟩ := by
  have hopened : ¬ f.opened.val < 0 := by rw [h.opened]; exact Int.lt_irrefl 0
  have hlooked : ¬ f.looked.val < 0 := by rw [h.looked]; exact Int.lt_irrefl 0
  have hmissing : ¬ (mode = .read ∧ file = none) := by
    rintro ⟨hmode, rfl⟩
    exact h.stored hmode rfl
  have hempty : ¬ (mode = .read ∧ file.getD [] = []) := fun hnot => h.stored hnot.1 hnot.2
  simp only [tagSession, if_neg hopened, if_neg hmissing, if_neg hlooked, if_neg hempty]

variable (body) in
lemma value_tagSession_of_not_reached (h : ¬ Reached f mode file) :
    (tagSession f mode body file).value = none ∧ (tagSession f mode body file).rc < 0 := by
  have hnoent : FileSystem.enoent < 0 := by decide
  unfold tagSession
  split
  · rename_i hopened
    exact ⟨rfl, hopened⟩
  · rename_i hopened
    split
    · exact ⟨rfl, hnoent⟩
    · dsimp only
      split
      · rename_i hlooked
        exact ⟨rfl, hlooked⟩
      · rename_i hlooked
        split
        · exact ⟨rfl, hnoent⟩
        · rename_i hempty
          have hopenedLe := f.opened.property
          have hlookedLe := f.looked.property
          exact absurd ⟨by omega, by omega, fun hmode hnil => hempty ⟨hmode, hnil⟩⟩ h

variable (f mode body file) in
/-- **What `fs_close` answers at the end of a session.** -/
lemma closed_tagSession :
    (FileOpened f mode file ∧ (tagSession f mode body file).closed = f.closed.val)
      ∨ ¬ FileOpened f mode file ∧ (tagSession f mode body file).closed = 0 := by
  have hopenedLe := f.opened.property
  unfold tagSession
  split
  · rename_i hopened
    refine .inr ⟨fun h => ?_, rfl⟩
    have hzero := h.1
    omega
  · rename_i hopened
    split
    · rename_i hmissing
      exact .inr ⟨fun h => h.2 hmissing.1 hmissing.2, rfl⟩
    · rename_i hmissing
      refine .inl ⟨⟨by omega, fun hmode hnone => hmissing ⟨hmode, hnone⟩⟩, ?_⟩
      dsimp only
      split
      · rfl
      · split
        · rfl
        · rfl

end Session

end TagFiles

end NrfEsl
