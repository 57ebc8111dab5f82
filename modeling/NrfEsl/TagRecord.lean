import NrfEsl.Ap.TagFiles

/-!
# A tag record, written and read back

`save_tag_in_storage` writes two files field by field, and five readers take fields out of them again,
each with offsets of its own: four functions of the access point and the GUI.  `tagRecord_roundTrip`: when
the calls work, all of them find what has been saved, whatever the files held before.

`fs_open` does not truncate.  What an older and longer file leaves behind the record is read by nobody.
-/

namespace NrfEsl

open FileSession TagFiles

namespace TagFiles

/-! ## Variables that are read into -/

lemma read16_bytes (old x : UInt16) : read16 old [lowByte x, highByte x] = x := by
  rw [read16, Mem.write_zero, sysGetLe16_bytes]

lemma readKey_keyV (old key : KeyMaterial) : readKey old key.keyV = key := by
  rw [readKey, Mem.write_zero, KeyMaterial.ofKeyV_keyV]

lemma readAddr_toList (old a : BtAddr) : readAddr old a.toList = a := by
  rw [readAddr, Mem.write_zero]
  ext i hi
  have hlt : i < a.toList.length := by rw [Vector.length_toList]; exact hi
  rw [Vector.getElem_ofFn, Mem.ofBytes_of_lt hlt, Vector.getElem_toList]

/-! ## The two files -/

section Saved

variable (btKey : List UInt8) (tag : EslChrcData) (files : TagFiles)

/-- What stands in the two files after a save. -/
structure Saved (tag : EslChrcData) (btKey : List UInt8) (files : TagFiles) : Prop where
  ble : ∃ rest, files (blePath tag.bleAddr.a) = some ((bleChunks tag btKey).flatten ++ rest)
  esl : ∃ rest, files (eslPath tag.eslAddr) = some ((eslChunks tag).flatten ++ rest)

/-- A session that writes, when the calls work. -/
lemma tagSession_create (chunks : List (List UInt8)) (file : Option (List UInt8)) :
    tagSession .none .create (Stream.writeAll .none chunks) file
      = ⟨0, 0, some (chunks.map List.length),
          some (chunks.flatten ++ (file.getD []).drop chunks.flatten.length)⟩ := by
  have hreached : Reached .none .create file := ⟨rfl, rfl, fun h => by cases h⟩
  have hwhole : ((Stream.start (file.getD [])).writeAll .none chunks).1 = chunks.map List.length :=
    writeAll_whole_iff.mpr fun i _ => reaches_none _ _
  have hbytes := bytes_writeAll hwhole (Nat.zero_le _)
  have hstart : FileSystem.overwrite (Stream.start (file.getD [])).bytes
      (Stream.start (file.getD [])).pos chunks.flatten
      = chunks.flatten ++ (file.getD []).drop chunks.flatten.length := overwrite_zero _ _
  rw [tagSession_of_reached hreached, hwhole, hbytes, hstart]
  rfl

lemma files_saveTagInStorage :
    ∃ rest₁ rest₂, (saveTagInStorage .none .none btKey tag files).files
      = Function.update (Function.update files (blePath tag.bleAddr.a)
          (some ((bleChunks tag btKey).flatten ++ rest₁)))
        (eslPath tag.eslAddr) (some ((eslChunks tag).flatten ++ rest₂)) := by
  rw [saveTagInStorage, tagSession_create, tagSession_create]
  dsimp only
  rw [if_neg (Int.lt_irrefl 0)]
  exact ⟨_, _, rfl⟩

/-- **A save leaves the record in both files**, whatever they held. -/
lemma saved_saveTagInStorage : Saved tag btKey (saveTagInStorage .none .none btKey tag files).files := by
  have hne := blePath_ne_eslPath tag.bleAddr.a tag.eslAddr
  obtain ⟨rest₁, rest₂, hfiles⟩ := files_saveTagInStorage btKey tag files
  constructor
  · refine ⟨rest₁, ?_⟩
    rw [hfiles, Function.update_of_ne hne, Function.update_self]
  · refine ⟨rest₂, ?_⟩
    rw [hfiles, Function.update_self]

end Saved

section Readers

variable {btKey : List UInt8} {tag : EslChrcData} {files : TagFiles}

/-- A session that reads fields from the start of a file, when the calls work. -/
lemma tagSession_read (lens : List ℕ) {chunks : List (List UInt8)} (hlens : lens = chunks.map List.length)
    {file : Option (List UInt8)} {rest : List UInt8} (hfile : file = some (chunks.flatten ++ rest))
    (hne : chunks.flatten ≠ []) :
    (tagSession .none .read (Stream.readAll .none lens) file).value = some chunks
      ∧ (tagSession .none .read (Stream.readAll .none lens) file).rc = 0 := by
  subst hlens hfile
  have hreached : Reached .none .read (some (chunks.flatten ++ rest)) :=
    ⟨rfl, rfl, fun _ hnil => hne (List.append_eq_nil_iff.mp hnil).1⟩
  have hread : ((Stream.start (chunks.flatten ++ rest)).readAll .none (chunks.map List.length)).1
      = chunks := readAll_eq rfl fun i _ => reaches_none _ _
  rw [tagSession_of_reached hreached]
  exact ⟨congrArg some hread, rfl⟩

lemma closed_none {α : Type} (mode : OpenMode) (body : Stream → α × Stream) (file : Option (List UInt8)) :
    (tagSession .none mode body file).closed = 0 := by
  rcases closed_tagSession .none mode body file with
    ⟨-, hclosed⟩ | ⟨-, hclosed⟩
  · exact hclosed
  · exact hclosed

lemma got_of_value {r : SessionResult (List (List UInt8))} {chunks : List (List UInt8)}
    (h : r.value = some chunks) (i : ℕ) : r.got i = chunks.getD i [] := by
  rw [SessionResult.got, h, Option.getD_some]

lemma loadTagInStorage_of_saved (h : Saved tag btKey files) (old : EslChrcData) :
    (loadTagInStorage .none tag.bleAddr old files).2.eslAddr = tag.eslAddr
      ∧ (loadTagInStorage .none tag.bleAddr old files).2.eslRspKey = tag.eslRspKey := by
  obtain ⟨rest, hfile⟩ := h.ble
  have hsplit : (bleChunks tag btKey).flatten ++ rest
      = [[lowByte tag.eslAddr, highByte tag.eslAddr], tag.eslRspKey.keyV].flatten
        ++ ([[tag.bleAddr.type], btKey].flatten ++ rest) := by
    simp [bleChunks]
  rw [hsplit] at hfile
  obtain ⟨hvalue, -⟩ := tagSession_read [2, 24] (by simp) hfile (by simp)
  dsimp only [loadTagInStorage, loadTagSession]
  rw [got_of_value hvalue, got_of_value hvalue]
  exact ⟨read16_bytes _ _, readKey_keyV _ _⟩

lemma findTagInStorageWithBleAddr_of_saved (h : Saved tag btKey files) (old : UInt16) :
    findTagInStorageWithBleAddr .none tag.bleAddr old files = (0, tag.eslAddr) := by
  obtain ⟨rest, hfile⟩ := h.ble
  have hsplit : (bleChunks tag btKey).flatten ++ rest
      = [[lowByte tag.eslAddr, highByte tag.eslAddr]].flatten
        ++ ([tag.eslRspKey.keyV, [tag.bleAddr.type], btKey].flatten ++ rest) := by
    simp [bleChunks]
  rw [hsplit] at hfile
  obtain ⟨hvalue, hrc⟩ := tagSession_read [2] (by simp) hfile (by simp)
  dsimp only [findTagInStorageWithBleAddr]
  rw [hrc, got_of_value hvalue]
  exact congrArg (Prod.mk 0) (read16_bytes _ _)

lemma findTagInStorageWithEslAddr_of_saved (h : Saved tag btKey files) (old : BtAddrLe) :
    findTagInStorageWithEslAddr .none tag.eslAddr old files = (0, tag.bleAddr) := by
  obtain ⟨rest, hfile⟩ := h.esl
  have hsplit : (eslChunks tag).flatten ++ rest
      = [tag.bleAddr.a.toList, [tag.bleAddr.type]].flatten
        ++ ([tag.eslRspKey.keyV, [lowByte tag.pnpVid, highByte tag.pnpVid],
          [lowByte tag.pnpPid, highByte tag.pnpPid]].flatten ++ rest) := by
    simp [eslChunks]
  rw [hsplit] at hfile
  obtain ⟨hvalue, hrc⟩ := tagSession_read [6, 1] (by simp) hfile (by simp)
  dsimp only [findTagInStorageWithEslAddr]
  rw [hrc, got_of_value hvalue, got_of_value hvalue]
  have haddr : readAddr old.a tag.bleAddr.a.toList = tag.bleAddr.a := readAddr_toList _ _
  exact congrArg (Prod.mk 0) (congrArg (BtAddrLe.mk tag.bleAddr.type) haddr)

/-- The bond key stands at `ESL_BT_KEY_OFFSET`. -/
lemma loadBtKeyInStorage_of_saved (h : Saved tag btKey files) {layout : BtKeysLayout}
    (hlen : btKey.length = layout.storageLen) (old : BtKeys) :
    (loadBtKeyInStorage .none layout tag.bleAddr old files).2.storage.read 0 layout.storageLen
      = btKey := by
  obtain ⟨rest, hfile⟩ := h.ble
  have hoffset : ((bleChunks tag btKey).flatten ++ rest).drop eslBtKeyOffset = [btKey].flatten ++ rest := by
    have hfront : ([lowByte tag.eslAddr, highByte tag.eslAddr] ++ tag.eslRspKey.keyV
        ++ [tag.bleAddr.type]).length = eslBtKeyOffset := by
      simp [eslBtKeyOffset]
    have hsplit : (bleChunks tag btKey).flatten ++ rest
        = ([lowByte tag.eslAddr, highByte tag.eslAddr] ++ tag.eslRspKey.keyV ++ [tag.bleAddr.type])
          ++ ([btKey].flatten ++ rest) := by
      simp [bleChunks]
    rw [hsplit, ← hfront, List.drop_left]
  have hreached : Reached .none .read (some ((bleChunks tag btKey).flatten ++ rest)) :=
    ⟨rfl, rfl, fun _ => by simp [bleChunks]⟩
  have hread : (((Stream.start ((bleChunks tag btKey).flatten ++ rest)).seek .none
      eslBtKeyOffset).readAll .none ([btKey].map List.length)).1 = [btKey] :=
    readAll_eq hoffset fun i _ => reaches_none _ _
  have hlens : [btKey].map List.length = [layout.storageLen] := by rw [← hlen]; rfl
  rw [hlens] at hread
  have hvalue : (loadBtKeySession .none layout tag.bleAddr files).value = some [btKey] := by
    rw [loadBtKeySession, hfile, tagSession_of_reached hreached]
    exact congrArg some hread
  dsimp only [loadBtKeyInStorage]
  rw [got_of_value hvalue, ← hlen]
  exact Mem.read_write _ _ _

/-- The name of a file is read back as its address. -/
lemma number?_eslAddrToStr (eslAddr : UInt16) :
    Text.number? 16 (eslAddrToStr eslAddr) = some eslAddr.toNat := by
  have hhigh := (highByte eslAddr).toNat_lt
  have hlow := (lowByte eslAddr).toNat_lt
  have hx := eslAddr.toNat_lt
  have hnibble : ∀ n < 2 ^ 8, Text.digit? 16 (Nat.digitChar (n / 16)) = some (n / 16)
      ∧ Text.digit? 16 (Nat.digitChar (n % 16)) = some (n % 16) := fun n hn =>
    ⟨Text.digit?_digitChar (by omega), Text.digit?_digitChar (Nat.mod_lt _ (by decide))⟩
  obtain ⟨h₁, h₂⟩ := hnibble _ hhigh
  obtain ⟨h₃, h₄⟩ := hnibble _ hlow
  have hsum : (((0 * 16 + (highByte eslAddr).toNat / 16) * 16 + (highByte eslAddr).toNat % 16) * 16
      + (lowByte eslAddr).toNat / 16) * 16 + (lowByte eslAddr).toNat % 16 = eslAddr.toNat := by
    rw [toNat_highByte, toNat_lowByte]
    omega
  rw [← hsum, eslAddrToStr]
  simp [Text.number?, Text.hexByte, h₁, h₂, h₃, h₄]

/-- The response key stands at the bytes the GUI takes. -/
lemma guiRspKey_of_saved (h : Saved tag btKey files) :
    (files (eslPath tag.eslAddr)).bind (guiRspKey (eslAddrToStr tag.eslAddr))
      = some (tag.eslAddr.toNat, tag.eslRspKey.keyV) := by
  obtain ⟨rest, hfile⟩ := h.esl
  have hfront : (tag.bleAddr.a.toList ++ [tag.bleAddr.type]).length = 7 := by simp
  have hkey : (tag.bleAddr.a.toList ++ [tag.bleAddr.type] ++ tag.eslRspKey.keyV).length = 31 := by simp
  have hsplit : (eslChunks tag).flatten ++ rest
      = tag.bleAddr.a.toList ++ [tag.bleAddr.type] ++ tag.eslRspKey.keyV
        ++ ([[lowByte tag.pnpVid, highByte tag.pnpVid],
          [lowByte tag.pnpPid, highByte tag.pnpPid]].flatten ++ rest) := by
    simp [eslChunks]
  have hslice : (((eslChunks tag).flatten ++ rest).take 31).drop 7 = tag.eslRspKey.keyV := by
    rw [hsplit, ← hkey, List.take_left, ← hfront, List.drop_left]
  rw [hfile, Option.bind_some, guiRspKey, number?_eslAddrToStr, Option.map_some, hslice]

end Readers

end TagFiles

/-- **A tag record is read back** by every reader. -/
theorem tagRecord_roundTrip (layout : BtKeysLayout) (tag : EslChrcData)
    (btKey : Vector UInt8 layout.storageLen) (files : TagFiles) (old : EslChrcData) (oldAddr : BtAddrLe)
    (oldEslAddr : UInt16) (oldKey : BtKeys) :
    let saved := (saveTagInStorage .none .none btKey.toList tag files).files
    let loaded := loadTagInStorage .none tag.bleAddr old saved
    let loadedKey := loadBtKeyInStorage .none layout tag.bleAddr oldKey saved
    (loaded.1 = 0 ∧ loaded.2.eslAddr = tag.eslAddr ∧ loaded.2.eslRspKey = tag.eslRspKey)
      ∧ findTagInStorageWithEslAddr .none tag.eslAddr oldAddr saved = (0, tag.bleAddr)
      ∧ findTagInStorageWithBleAddr .none tag.bleAddr oldEslAddr saved = (0, tag.eslAddr)
      ∧ (loadedKey.1 = 0 ∧ loadedKey.2.storage.read 0 layout.storageLen = btKey.toList)
      ∧ (saved (eslPath tag.eslAddr)).bind (guiRspKey (eslAddrToStr tag.eslAddr))
        = some (tag.eslAddr.toNat, tag.eslRspKey.keyV) := by
  intro saved loaded loadedKey
  have hsaved : Saved tag btKey.toList saved := saved_saveTagInStorage _ tag files
  obtain ⟨heslAddr, hkey⟩ := loadTagInStorage_of_saved hsaved old
  refine ⟨⟨?_, heslAddr, hkey⟩, findTagInStorageWithEslAddr_of_saved hsaved oldAddr,
    findTagInStorageWithBleAddr_of_saved hsaved oldEslAddr, ⟨?_, ?_⟩, guiRspKey_of_saved hsaved⟩
  · exact closed_none _ _ _
  · exact closed_none _ _ _
  · exact loadBtKeyInStorage_of_saved hsaved (Vector.length_toList ..) oldKey

end NrfEsl
