import NrfEsl.TagRecord

/-!
# What the storage functions of the tag database report

`save_tag_in_storage`, `load_tag_in_storage` and `load_bt_key_in_storage` share an exit at which they close
the file, and return what `fs_close` answers there.  Closing a file that has not been opened answers 0, and
what the transfers answer is not looked at.

So what is returned says whether closing failed, and nothing else: `ret_saveTagInStorage`,
`closed_tagSession_eq_zero_iff`.  `tagFiles_report_iff` is for which failures that is the right answer.
-/

namespace NrfEsl

open FileSession TagFiles

namespace TagFiles

/-! ## What has been done -/

/-- Every byte has been written, and the file closed, without which nothing is sure to be stored. -/
def SessionResult.Wrote (r : SessionResult (List ℕ)) (chunks : List (List UInt8)) : Prop :=
  r.value = some (chunks.map List.length) ∧ r.closed = 0

/-- Every byte has been read. -/
def SessionResult.HasRead (r : SessionResult (List (List UInt8))) (lens : List ℕ) : Prop :=
  ∃ chunks, r.value = some chunks ∧ chunks.map List.length = lens

/-- Both files have been written. -/
def SaveResult.Written (r : SaveResult) (btKey : List UInt8) (tag : EslChrcData) : Prop :=
  r.ble.Wrote (bleChunks tag btKey) ∧ ∃ esl, r.esl = some esl ∧ esl.Wrote (eslChunks tag)

/-- The file is missing or empty. -/
def NotStored (bleAddr : BtAddrLe) (files : TagFiles) : Prop := (files (blePath bleAddr.a)).getD [] = []

/-- The bond key has been read, from where it stands. -/
def KeyRead (f : Faults) (layout : BtKeysLayout) (bleAddr : BtAddrLe) (files : TagFiles) : Prop :=
  f.moved.val = 0 ∧ (loadBtKeySession f layout bleAddr files).HasRead [layout.storageLen]

/-- What `load_tag_in_storage` is to report. -/
structure LoadReports (f : Faults) (bleAddr : BtAddrLe) (tag : EslChrcData) (files : TagFiles) :
    Prop where
  ret : (loadTagInStorage f bleAddr tag files).1 = 0
    ↔ (loadTagSession f bleAddr files).HasRead [2, 24]
  notStored : NotStored bleAddr files →
    (loadTagInStorage f bleAddr tag files).1 < 0 ∧ (loadTagInStorage f bleAddr tag files).2 = tag

/-- What `load_bt_key_in_storage` is to report. -/
structure KeyReports (f : Faults) (layout : BtKeysLayout) (bleAddr : BtAddrLe) (key : BtKeys)
    (files : TagFiles) : Prop where
  ret : (loadBtKeyInStorage f layout bleAddr key files).1 = 0 ↔ KeyRead f layout bleAddr files
  notStored : NotStored bleAddr files → (loadBtKeyInStorage f layout bleAddr key files).1 < 0

/-! ## Which calls fail -/

/-- No call fails in a session that writes. -/
structure WritesAll (f : Faults) (chunks : List (List UInt8)) : Prop where
  opened : f.opened.val = 0
  looked : f.looked.val = 0
  closed : f.closed.val = 0
  reaches : ∀ i (hi : i < chunks.length), f.Reaches i chunks[i].length

/-- No call before the last one fails in a session that reads, and the file has the bytes. -/
structure ReadsAll (f : Faults) (file : Option (List UInt8)) (pos : ℕ) (lens : List ℕ) : Prop where
  reached : Reached f .read file
  reaches : ∀ i (hi : i < lens.length), f.Reaches i lens[i]
  enough : lens.sum ≤ (file.getD []).length - pos

/-- The same for the bond key. -/
def KeyReadable (f : Faults) (layout : BtKeysLayout) (file : Option (List UInt8)) : Prop :=
  f.moved.val = 0 ∧ ReadsAll f file eslBtKeyOffset [layout.storageLen]

/-- The file is opened, and closing it fails. -/
def CloseFails (f : Faults) (mode : OpenMode) (file : Option (List UInt8)) : Prop :=
  FileOpened f mode file ∧ f.closed.val < 0

/-- The `fs_close` whose answer `save_tag_in_storage` returns fails. -/
def SaveCloseFails (f₁ f₂ : Faults) : Prop :=
  f₁.opened.val = 0 ∧
    if f₁.looked.val < 0 then f₁.closed.val < 0 else f₂.opened.val = 0 ∧ f₂.closed.val < 0

section Session

variable {α : Type} {f : Faults} {mode : OpenMode} {body : Stream → α × Stream}
  {file : Option (List UInt8)}

/-- **A session answers 0 at its end** unless it closes an open file in vain. -/
lemma closed_tagSession_eq_zero_iff :
    (tagSession f mode body file).closed = 0 ↔ ¬ CloseFails f mode file := by
  have hle := f.closed.property
  rcases closed_tagSession f mode body file with
    ⟨hopened, hclosed⟩ | ⟨hopened, hclosed⟩
  · rw [hclosed]
    constructor
    · rintro hzero ⟨-, hneg⟩
      omega
    · intro h
      by_contra hne
      exact h ⟨hopened, by omega⟩
  · rw [hclosed]
    exact iff_of_true rfl fun h => hopened h.1

lemma closed_tagSession_le : (tagSession f mode body file).closed ≤ 0 := by
  have hle := f.closed.property
  rcases closed_tagSession f mode body file with
    ⟨-, hclosed⟩ | ⟨-, hclosed⟩
  · rw [hclosed]
    exact hle
  · exact Int.le_of_eq hclosed

/-- **A session has written** exactly when no call fails. -/
lemma wrote_tagSession_iff {chunks : List (List UInt8)} :
    (tagSession f .create (Stream.writeAll f chunks) file).Wrote chunks ↔ WritesAll f chunks := by
  by_cases h : Reached f .create file
  · rw [tagSession_of_reached h, SessionResult.Wrote, Option.some.injEq, writeAll_whole_iff]
    have hstart : (Stream.start (file.getD [])).transfers = 0 := rfl
    rw [hstart]
    constructor
    · rintro ⟨hreach, hclosed⟩
      exact ⟨h.opened, h.looked, hclosed, fun i hi => by simpa only [Nat.zero_add] using hreach i hi⟩
    · rintro ⟨-, -, hclosed, hreach⟩
      exact ⟨fun i hi => by simpa only [Nat.zero_add] using hreach i hi, hclosed⟩
  · obtain ⟨hnone, -⟩ := value_tagSession_of_not_reached (Stream.writeAll f chunks) h
    constructor
    · rintro ⟨hsome, -⟩
      rw [hnone] at hsome
      cases hsome
    · rintro ⟨hopened, hlooked, -, -⟩
      exact absurd ⟨hopened, hlooked, fun hmode => by cases hmode⟩ h

/-- **A session has read** exactly when no call before the last one fails. -/
lemma hasRead_tagSession_iff {lens : List ℕ} (move : Stream → Stream) {pos : ℕ}
    (hmove : ∀ bytes, move (.start bytes) = ⟨bytes, pos, 0⟩) :
    (tagSession f .read (fun s => (move s).readAll f lens) file).HasRead lens
      ↔ ReadsAll f file pos lens := by
  by_cases h : Reached f .read file
  · have hvalue : (tagSession f .read (fun s => (move s).readAll f lens) file).value
        = some ((⟨file.getD [], pos, 0⟩ : Stream).readAll f lens).1 := by
      rw [tagSession_of_reached h, hmove]
    constructor
    · rintro ⟨chunks, hchunks, hlens⟩
      cases hvalue.symm.trans hchunks
      obtain ⟨hreach, henough⟩ := readAll_whole_iff.mp hlens
      exact ⟨h, fun i hi => by simpa only [Nat.zero_add] using hreach i hi, henough⟩
    · rintro ⟨-, hreach, henough⟩
      exact ⟨_, hvalue, readAll_whole_iff.mpr
        ⟨fun i hi => by simpa only [Nat.zero_add] using hreach i hi, henough⟩⟩
  · obtain ⟨hnone, -⟩ :=
      value_tagSession_of_not_reached (fun s => (move s).readAll f lens) h
    constructor
    · rintro ⟨chunks, hsome, -⟩
      rw [hnone] at hsome
      cases hsome
    · intro hread
      exact absurd hread.reached h

/-- Nothing is read of an empty file. -/
lemma not_readsAll_of_empty (h : file.getD [] = []) (pos : ℕ) (lens : List ℕ) :
    ¬ ReadsAll f file pos lens := fun hread => hread.reached.stored rfl h

end Session

/-! ## `save_tag_in_storage` -/

section Save

variable {f₁ f₂ : Faults} {btKey : List UInt8} {tag : EslChrcData} {files : TagFiles}

lemma rc_tagSession_create_lt_iff {f : Faults} {α : Type} {body : Stream → α × Stream}
    {file : Option (List UInt8)} :
    (tagSession f .create body file).rc < 0 ↔ f.opened.val < 0 ∨ f.looked.val < 0 := by
  have hopenedLe := f.opened.property
  have hlookedLe := f.looked.property
  by_cases h : Reached f .create file
  · have hopened := h.opened
    have hlooked := h.looked
    rw [tagSession_of_reached h]
    refine iff_of_false (Int.lt_irrefl 0) ?_
    omega
  · obtain ⟨-, hrc⟩ := value_tagSession_of_not_reached body h
    refine iff_of_true hrc ?_
    by_contra hnot
    exact h ⟨by omega, by omega, fun hmode => by cases hmode⟩

lemma closeFails_create_iff {f : Faults} {file : Option (List UInt8)} :
    CloseFails f .create file ↔ f.opened.val = 0 ∧ f.closed.val < 0 := by
  constructor
  · rintro ⟨⟨hopened, -⟩, hclosed⟩
    exact ⟨hopened, hclosed⟩
  · rintro ⟨hopened, hclosed⟩
    exact ⟨⟨hopened, fun hmode => by cases hmode⟩, hclosed⟩

/-- **What a save returns.** -/
lemma ret_saveTagInStorage :
    (saveTagInStorage f₁ f₂ btKey tag files).ret = 0 ↔ ¬ SaveCloseFails f₁ f₂ := by
  have hopenedLe := f₁.opened.property
  unfold saveTagInStorage SaveCloseFails
  dsimp only
  split
  · rename_i hrc
    rw [rc_tagSession_create_lt_iff] at hrc
    dsimp only
    rw [closed_tagSession_eq_zero_iff, closeFails_create_iff]
    refine not_congr ⟨?_, ?_⟩
    · rintro ⟨hopened, hclosed⟩
      rw [if_pos (by omega)]
      exact ⟨hopened, hclosed⟩
    · rintro ⟨hopened, hclosed⟩
      rw [if_pos (by omega)] at hclosed
      exact ⟨hopened, hclosed⟩
  · rename_i hrc
    rw [rc_tagSession_create_lt_iff, not_or] at hrc
    dsimp only
    rw [closed_tagSession_eq_zero_iff, closeFails_create_iff, if_neg hrc.2]
    exact not_congr ⟨fun h => ⟨by omega, h⟩, And.right⟩

/-- **What a save has done.** -/
lemma written_saveTagInStorage :
    (saveTagInStorage f₁ f₂ btKey tag files).Written btKey tag
      ↔ WritesAll f₁ (bleChunks tag btKey) ∧ WritesAll f₂ (eslChunks tag) := by
  unfold saveTagInStorage SaveResult.Written
  dsimp only
  split
  · rename_i hrc
    rw [rc_tagSession_create_lt_iff] at hrc
    constructor
    · rintro ⟨-, esl, hesl, -⟩
      cases hesl
    · rintro ⟨hble, -⟩
      have hopened := hble.opened
      have hlooked := hble.looked
      omega
  · dsimp only
    rw [wrote_tagSession_iff]
    refine and_congr_right fun _ => ?_
    constructor
    · rintro ⟨esl, hesl, hwrote⟩
      cases hesl
      exact wrote_tagSession_iff.mp hwrote
    · intro hall
      exact ⟨_, rfl, wrote_tagSession_iff.mpr hall⟩

lemma not_saveCloseFails_of_writesAll (h₁ : WritesAll f₁ (bleChunks tag btKey))
    (h₂ : WritesAll f₂ (eslChunks tag)) : ¬ SaveCloseFails f₁ f₂ := by
  rintro ⟨-, hfails⟩
  have hlooked := h₁.looked
  have hclosed := h₂.closed
  rw [if_neg (by omega)] at hfails
  omega

end Save

/-! ## The readers -/

section Readers

variable {f : Faults} {layout : BtKeysLayout} {bleAddr : BtAddrLe} {files : TagFiles}

lemma hasRead_loadTagSession_iff :
    (loadTagSession f bleAddr files).HasRead [2, 24]
      ↔ ReadsAll f (files (blePath bleAddr.a)) 0 [2, 24] :=
  hasRead_tagSession_iff id fun _ => rfl

lemma keyRead_iff :
    KeyRead f layout bleAddr files ↔ KeyReadable f layout (files (blePath bleAddr.a)) := by
  refine and_congr_right fun hmoved => hasRead_tagSession_iff _ fun bytes => ?_
  rw [Stream.seek, if_neg (by omega)]
  rfl

/-- Without a file the tag stays as it is. -/
lemma loadTagInStorage_of_notStored (h : NotStored bleAddr files) (tag : EslChrcData) :
    (loadTagInStorage f bleAddr tag files).2 = tag := by
  have hnot : ¬ Reached f .read (files (blePath bleAddr.a)) := fun hreached => hreached.stored rfl h
  obtain ⟨hnone, -⟩ := value_tagSession_of_not_reached (Stream.readAll f [2, 24]) hnot
  have hgot : ∀ i, (loadTagSession f bleAddr files).got i = [] := by
    intro i
    rw [SessionResult.got, loadTagSession, hnone]
    rfl
  have haddr : read16 tag.eslAddr [] = tag.eslAddr := by
    rw [read16, Mem.write_nil, sysGetLe16_bytes]
  have hkey : readKey tag.eslRspKey [] = tag.eslRspKey := by
    rw [readKey, Mem.write_nil, KeyMaterial.ofKeyV_keyV]
  have hpast : (loadTagSession f bleAddr files).value.isSome = false := by
    rw [loadTagSession, hnone]
    rfl
  dsimp only [loadTagInStorage]
  rw [hgot, hgot, haddr, hkey, hpast, if_neg (by rintro ⟨h, -⟩; cases h)]

lemma iff_not_iff (P C : Prop) : ((¬ C) ↔ P) ↔ (P ∧ ¬ C) ∨ (¬ P ∧ C) := by
  by_cases hP : P
  · by_cases hC : C <;> simp [hP, hC]
  · by_cases hC : C <;> simp [hP, hC]

/-- **When `load_tag_in_storage` reports rightly.** -/
lemma loadReports_iff (tag : EslChrcData) :
    LoadReports f bleAddr tag files ↔
      (ReadsAll f (files (blePath bleAddr.a)) 0 [2, 24] ∧ ¬ CloseFails f .read (files (blePath bleAddr.a)))
        ∨ (¬ ReadsAll f (files (blePath bleAddr.a)) 0 [2, 24]
          ∧ CloseFails f .read (files (blePath bleAddr.a))) := by
  have hret : (loadTagInStorage f bleAddr tag files).1 = 0
      ↔ ¬ CloseFails f .read (files (blePath bleAddr.a)) := closed_tagSession_eq_zero_iff
  rw [← iff_not_iff, ← hret, ← hasRead_loadTagSession_iff]
  refine ⟨LoadReports.ret, fun h => ⟨h, fun hnot => ⟨?_, loadTagInStorage_of_notStored hnot tag⟩⟩⟩
  have hne : (loadTagInStorage f bleAddr tag files).1 ≠ 0 := by
    rw [Ne, h, hasRead_loadTagSession_iff]
    exact not_readsAll_of_empty hnot _ _
  have hle : (loadTagInStorage f bleAddr tag files).1 ≤ 0 := closed_tagSession_le
  omega

/-- **When `load_bt_key_in_storage` reports rightly.** -/
lemma keyReports_iff (key : BtKeys) :
    KeyReports f layout bleAddr key files ↔
      (KeyReadable f layout (files (blePath bleAddr.a)) ∧ ¬ CloseFails f .read (files (blePath bleAddr.a)))
        ∨ (¬ KeyReadable f layout (files (blePath bleAddr.a))
          ∧ CloseFails f .read (files (blePath bleAddr.a))) := by
  have hret : (loadBtKeyInStorage f layout bleAddr key files).1 = 0
      ↔ ¬ CloseFails f .read (files (blePath bleAddr.a)) := closed_tagSession_eq_zero_iff
  rw [← iff_not_iff, ← hret, ← keyRead_iff]
  refine ⟨KeyReports.ret, fun h => ⟨h, fun hnot => ?_⟩⟩
  have hne : (loadBtKeyInStorage f layout bleAddr key files).1 ≠ 0 := by
    rw [Ne, h, keyRead_iff]
    exact fun hread => not_readsAll_of_empty hnot _ _ hread.2
  have hle : (loadBtKeyInStorage f layout bleAddr key files).1 ≤ 0 := closed_tagSession_le
  omega

/-- **When `esl_c_connect` imports only what has been stored.** -/
lemma connectImports_iff (freeConnIdx : ℤ) (key : BtKeys) :
    (connectImports f layout freeConnIdx bleAddr key files ≠ none → KeyRead f layout bleAddr files) ↔
      freeConnIdx = -1 ∨ KeyReadable f layout (files (blePath bleAddr.a))
        ∨ CloseFails f .read (files (blePath bleAddr.a)) := by
  have hret : (loadBtKeyInStorage f layout bleAddr key files).1 = 0
      ↔ ¬ CloseFails f .read (files (blePath bleAddr.a)) := closed_tagSession_eq_zero_iff
  have himports : connectImports f layout freeConnIdx bleAddr key files ≠ none
      ↔ freeConnIdx ≠ -1 ∧ ¬ CloseFails f .read (files (blePath bleAddr.a)) := by
    rw [← hret]
    unfold connectImports
    by_cases hfree : freeConnIdx = -1
    · simp [hfree]
    · by_cases hzero : (loadBtKeyInStorage f layout bleAddr key files).1 = 0
      · simp [hfree, hzero]
      · simp [hfree, hzero]
  rw [himports, keyRead_iff]
  constructor
  · intro h
    by_contra hnot
    push Not at hnot
    exact hnot.2.1 (h ⟨hnot.1, hnot.2.2⟩)
  · rintro (hfree | hread | hfails) ⟨hne, hcloses⟩
    · exact absurd hfree hne
    · exact hread
    · exact absurd hfails hcloses

end Readers

end TagFiles

/-- **For which failures the result is right**, of the three functions and of the import that trusts the last
one. -/
theorem tagFiles_report_iff (f₁ f₂ f : Faults) (layout : BtKeysLayout) (btKey : List UInt8)
    (tag old : EslChrcData) (bleAddr : BtAddrLe) (key : BtKeys) (freeConnIdx : ℤ) (files : TagFiles) :
    let save := saveTagInStorage f₁ f₂ btKey tag files
    let file := files (blePath bleAddr.a)
    ((save.ret = 0 ↔ save.Written btKey tag) ↔
        (WritesAll f₁ (bleChunks tag btKey) ∧ WritesAll f₂ (eslChunks tag)) ∨ SaveCloseFails f₁ f₂)
      ∧ (LoadReports f bleAddr old files ↔
        (ReadsAll f file 0 [2, 24] ∧ ¬ CloseFails f .read file)
          ∨ (¬ ReadsAll f file 0 [2, 24] ∧ CloseFails f .read file))
      ∧ (KeyReports f layout bleAddr key files ↔
        (KeyReadable f layout file ∧ ¬ CloseFails f .read file)
          ∨ (¬ KeyReadable f layout file ∧ CloseFails f .read file))
      ∧ ((connectImports f layout freeConnIdx bleAddr key files ≠ none → KeyRead f layout bleAddr files) ↔
        freeConnIdx = -1 ∨ KeyReadable f layout file ∨ CloseFails f .read file) := by
  intro save file
  refine ⟨?_, loadReports_iff old, keyReports_iff key, connectImports_iff freeConnIdx key⟩
  rw [ret_saveTagInStorage, written_saveTagInStorage, iff_not_iff]
  constructor
  · rintro (⟨hall, -⟩ | ⟨-, hfails⟩)
    · exact .inl hall
    · exact .inr hfails
  · rintro (hall | hfails)
    · exact .inl ⟨hall, not_saveCloseFails_of_writesAll hall.1 hall.2⟩
    · exact .inr ⟨fun hall => not_saveCloseFails_of_writesAll hall.1 hall.2 hfails, hfails⟩

/-- The first write stops at once. -/
def fullDisk : Faults := { Faults.none with stops := fun _ => some 0 }

/-- No file is there, and no call fails but a write: a save that has stored nothing, a load that has found
nothing and a key that is not there are reported as done, and the key is imported. -/
theorem tagFiles_misreport :
    let files : TagFiles := fun _ => none
    let bleAddr := EslChrcData.zero.bleAddr
    let key : BtKeys := ⟨0, bleAddr, fun _ => 0⟩
    let save := saveTagInStorage fullDisk fullDisk [1, 2, 3] .zero files
    (save.ret = 0 ∧ ¬ save.Written [1, 2, 3] .zero)
      ∧ ¬ LoadReports .none bleAddr .zero files
      ∧ ¬ KeyReports .none ⟨12, 3⟩ bleAddr key files
      ∧ connectImports .none ⟨12, 3⟩ 0 bleAddr key files ≠ none
      ∧ ¬ KeyRead .none ⟨12, 3⟩ bleAddr files := by
  refine ⟨⟨rfl, ?_⟩, ?_, ?_, ?_, ?_⟩
  · rintro ⟨⟨hvalue, -⟩, -⟩
    exact absurd hvalue (by decide)
  · rintro ⟨-, hnot⟩
    exact absurd (hnot rfl).1 (by decide)
  · rintro ⟨-, hnot⟩
    exact absurd (hnot rfl) (by decide)
  · decide
  · rintro ⟨-, chunks, hvalue, -⟩
    cases hvalue

end NrfEsl
