import NrfEsl.Ap.ImageFiles

/-!
# Missing, empty and large images of the access point

`ap_read_img_from_storage` should return 0 for a file that is there, not empty and read as a whole.  It
opens with `FS_O_CREATE`, so a missing file is an empty one from then on; the error for an empty file is
overwritten on the way out; a read that stops early is no error; and as many bytes as the file has are
read into a buffer of `CONFIG_ESL_IMAGE_FILE_SIZE`.  `esl_c_obj_write_by_name` trusts the result.

`apImageRead_iff` is for which files and failures both are right all the same.
-/

namespace NrfEsl

open FileSession

/-! ## Specification -/

/-- What `ap_read_img_from_storage` is to do: 0 for a file that has been read as a whole, no write
behind the buffer, and no new file. -/
structure ReadsImage (cfg : ApImageConfig) (f : ImageFaults) (path : List Char) (files : TagFiles) :
    Prop where
  ret : (apReadImgFromStorage f path files).ret = 0
    ↔ ∃ content, files path = some content ∧ content ≠ []
      ∧ (apReadImgFromStorage f path files).data = content
      ∧ (apReadImgFromStorage f path files).len = some content.length
  fits : (apReadImgFromStorage f path files).data.length ≤ cfg.imageFileSize
  notCreated : files path = none → (apReadImgFromStorage f path files).files path = none

/-- What a call of `esl_c_obj_write_by_name` is to do: no write behind the buffer, and what it sends is
the content of the file. -/
structure SendsImage (cfg : ApImageConfig) (file : Option (List UInt8)) (w : ImageWrite) : Prop where
  fits : ∀ n ∈ w.written, n ≤ cfg.imageFileSize
  sent : ∀ data, w.sent = some data → ∃ content, file = some content ∧ content ≠ [] ∧ data = content

/-! ## Which files and which failures -/

/-- The bytes of a read, and whether they are all. -/
def MovesInto (cfg : ApImageConfig) (f : ImageFaults) (content : List UInt8) : Prop :=
  (f.moves 0 content).length ≤ cfg.imageFileSize

/-- The file is there, not empty, and nothing stops the read. -/
def ReadWhole (f : ImageFaults) (file : Option (List UInt8)) : Prop :=
  ∃ content, file = some content ∧ content ≠ [] ∧ f.Reaches 0 content.length

/-- The file is not opened; or it is there, and it cannot be looked up, or what is read fits into the
buffer and an error is answered if and only if it is not a whole image. -/
def ReadRight (cfg : ApImageConfig) (f : ImageFaults) (file : Option (List UInt8)) : Prop :=
  f.opened.val < 0 ∨ file ≠ none ∧
    (f.looked.val < 0 ∨ MovesInto cfg f (file.getD []) ∧
      (f.read.val < 0 ∨ (f.closed.val = 0 ↔ ReadWhole f file)))

/-- The size that is cleared fits into the buffer.  Then some call fails, or the image is read as a
whole; and what is read fits. -/
def SendRight (cfg : ApImageConfig) (f₁ f₂ : ImageFaults) (file : Option (List UInt8)) : Prop :=
  (f₁.opened.val = 0 → f₁.looked.val = 0 → (file.getD []).length ≤ cfg.imageFileSize) ∧
    (f₂.opened.val < 0 ∨ f₂.looked.val < 0 ∨ MovesInto cfg f₂ (file.getD []) ∧
      (f₂.read.val < 0 ∨ f₂.closed.val < 0 ∨ ReadWhole f₂ file))

/-! ## Reading -/

section Reading

variable {cfg : ApImageConfig} {f : ImageFaults} {path : List Char} {files : TagFiles}

lemma read_start (f : Faults) (content : List UInt8) :
    ((Stream.start content).read f content.length).1 = f.moves 0 content := by
  show f.moves 0 ((content.drop 0).take content.length) = f.moves 0 content
  rw [List.drop_zero, List.take_length]

lemma moves_eq_self_iff {f : Faults} {content : List UInt8} :
    f.moves 0 content = content ↔ f.Reaches 0 content.length :=
  ⟨fun h => length_moves_eq_iff.mp (congrArg List.length h), moves_of_reaches⟩

/-- The label `out` answers 0 if and only if nothing has failed. -/
lemma imageOut_eq_zero_iff {rc : ℤ} : imageOut f rc = 0 ↔ f.closed.val = 0 ∧ 0 ≤ rc := by
  have hle := f.closed.property
  unfold imageOut
  split
  · omega
  · split <;> omega

lemma apRead_of_opened (h : f.opened.val < 0) :
    apReadImgFromStorage f path files = ⟨f.opened.val, [], none, files⟩ := by
  rw [apReadImgFromStorage, if_pos h]

lemma apRead_of_looked (hopened : ¬ f.opened.val < 0) (h : f.looked.val < 0) :
    apReadImgFromStorage f path files
      = ⟨imageOut f f.looked.val, [], none, (openCreate path files).2⟩ := by
  rw [apReadImgFromStorage, if_neg hopened]
  dsimp only
  rw [if_pos h]

/-- **A read that comes to `fs_read`.** -/
lemma apRead_of_reached (hopened : ¬ f.opened.val < 0) (hlooked : ¬ f.looked.val < 0) :
    apReadImgFromStorage f path files
      = if f.read.val < 0 then
          ⟨imageOut f f.read.val, f.moves 0 ((files path).getD []), none, (openCreate path files).2⟩
        else
          ⟨imageOut f (f.moves 0 ((files path).getD [])).length, f.moves 0 ((files path).getD []),
            some (f.moves 0 ((files path).getD [])).length, (openCreate path files).2⟩ := by
  rw [apReadImgFromStorage, if_neg hopened]
  dsimp only
  rw [if_neg hlooked, openCreate]
  dsimp only
  rw [read_start]

/-- Opening with `FS_O_CREATE` creates no file only if there is one. -/
lemma notCreated_iff :
    (files path = none → (openCreate path files).2 path = none) ↔ files path ≠ none := by
  have hsome : (openCreate path files).2 path ≠ none := by
    simp only [openCreate, Function.update_self, ne_eq, reduceCtorEq, not_false_eq_true]
  exact ⟨fun h hnone => hsome (h hnone), fun h hnone => absurd hnone h⟩

/-- What the result of a whole read says. -/
lemma readWhole_iff {file : Option (List UInt8)} :
    ReadWhole f file ↔ ∃ content, file = some content ∧ content ≠ []
      ∧ f.moves 0 (file.getD []) = content
      ∧ some (f.moves 0 (file.getD [])).length = some content.length := by
  refine exists_congr fun content => and_congr_right fun hfile => and_congr_right fun _ => ?_
  rw [hfile, Option.getD_some, ← moves_eq_self_iff, Option.some_inj]
  constructor
  · intro h
    exact ⟨h, congrArg List.length h⟩
  · exact fun h => h.1

/-- A file that cannot be opened is not touched. -/
lemma readsImage_of_opened (h : f.opened.val < 0) : ReadsImage cfg f path files := by
  constructor
  · rw [apRead_of_opened h]
    refine iff_of_false (Int.ne_of_lt h) ?_
    rintro ⟨content, -, -, -, hlen⟩
    cases hlen
  · rw [apRead_of_opened h]
    exact Nat.zero_le _
  · rw [apRead_of_opened h]
    exact id

/-- A file that cannot be looked up is not read. -/
lemma readsImage_of_looked (hopened : ¬ f.opened.val < 0) (h : f.looked.val < 0) :
    ReadsImage cfg f path files ↔ files path ≠ none := by
  rw [← notCreated_iff]
  constructor
  · intro hreads
    have hcreated := hreads.notCreated
    rwa [apRead_of_looked hopened h] at hcreated
  · intro hcreated
    constructor
    · rw [apRead_of_looked hopened h]
      refine iff_of_false (fun hzero => ?_) ?_
      · have hnot := (imageOut_eq_zero_iff.mp hzero).2
        omega
      · rintro ⟨content, -, -, -, hlen⟩
        cases hlen
    · rw [apRead_of_looked hopened h]
      exact Nat.zero_le _
    · rwa [apRead_of_looked hopened h]

/-- Otherwise the result is right if closing fails when and only when something is missing. -/
lemma readsImage_of_reached (hopened : ¬ f.opened.val < 0) (hlooked : ¬ f.looked.val < 0) :
    ReadsImage cfg f path files ↔ files path ≠ none ∧ MovesInto cfg f ((files path).getD [])
      ∧ (f.read.val < 0 ∨ (f.closed.val = 0 ↔ ReadWhole f (files path))) := by
  have hret : (apReadImgFromStorage f path files).data = f.moves 0 ((files path).getD [])
      ∧ (apReadImgFromStorage f path files).files = (openCreate path files).2
      ∧ (((apReadImgFromStorage f path files).ret = 0
          ↔ ∃ content, files path = some content ∧ content ≠ []
            ∧ (apReadImgFromStorage f path files).data = content
            ∧ (apReadImgFromStorage f path files).len = some content.length)
        ↔ (f.read.val < 0 ∨ (f.closed.val = 0 ↔ ReadWhole f (files path)))) := by
    rw [apRead_of_reached hopened hlooked]
    split
    · rename_i hread
      refine ⟨rfl, rfl, iff_of_true (iff_of_false (fun hzero => ?_) ?_) (.inl hread)⟩
      · have hnot := (imageOut_eq_zero_iff.mp hzero).2
        omega
      · rintro ⟨content, -, -, -, hlen⟩
        cases hlen
    · rename_i hread
      refine ⟨rfl, rfl, ?_⟩
      rw [or_iff_right hread, readWhole_iff, imageOut_eq_zero_iff,
        and_iff_left (Int.natCast_nonneg _)]
  obtain ⟨hdata, hfiles, hright⟩ := hret
  rw [← notCreated_iff, ← hright]
  constructor
  · intro h
    refine ⟨?_, ?_, h.ret⟩
    · rw [← hfiles]
      exact h.notCreated
    · rw [MovesInto, ← hdata]
      exact h.fits
  · rintro ⟨hcreated, hfits, hret⟩
    refine ⟨hret, ?_, ?_⟩
    · rw [hdata]
      exact hfits
    · rw [hfiles]
      exact hcreated

/-- **When `ap_read_img_from_storage` is right.** -/
theorem readsImage_iff : ReadsImage cfg f path files ↔ ReadRight cfg f (files path) := by
  by_cases hopened : f.opened.val < 0
  · exact iff_of_true (readsImage_of_opened hopened) (.inl hopened)
  · rw [ReadRight, or_iff_right hopened]
    by_cases hlooked : f.looked.val < 0
    · rw [readsImage_of_looked hopened hlooked]
      exact ⟨fun h => ⟨h, .inl hlooked⟩, And.left⟩
    · rw [readsImage_of_reached hopened hlooked, or_iff_right hlooked]

end Reading

/-! ## Sending -/

section Sending

variable {cfg : ApImageConfig} {crc32Ieee : List UInt8 → UInt32} {otc : OtsClient}
  {f₁ f₂ : ImageFaults} {random : Vector UInt8 100} {connIdx tagImgIdx : UInt8}
  {imgName : List Char} {imgObjBuf : Mem} {lastImageCrc : UInt32} {files : TagFiles}

/-- The branch that reads an image is taken. -/
structure SendsFile (cfg : ApImageConfig) (otc : OtsClient) (connIdx tagImgIdx : UInt8)
    (imgName : List Char) : Prop where
  conn : connIdx.toNat < cfg.maxConn
  select : otc.selectId (btOtsObjIdMin + tagImgIdx.toNat) = 0
  file : ¬ (cfg.pts = true ∧ imgName = "PTS".toList)

/-- The size session leaves the bytes that there are. -/
lemma getD_apReadImgSize (f : ImageFaults) (path : List Char) (files : TagFiles) :
    ((apReadImgSizeFromStorage f path files).2 path).getD [] = (files path).getD [] := by
  unfold apReadImgSizeFromStorage
  split
  · rfl
  · dsimp only
    split
    · simp only [openCreate, Function.update_self, Option.getD_some]
    · simp only [openCreate, Function.update_self, Option.getD_some]

/-- The size that it answers. -/
lemma size_apReadImgSize_le_iff (n : ℕ) (f : ImageFaults) (path : List Char) (files : TagFiles) :
    (apReadImgSizeFromStorage f path files).1 ≤ n
      ↔ (f.opened.val = 0 → f.looked.val = 0 → ((files path).getD []).length ≤ n) := by
  have hopenedLe := f.opened.property
  have hlookedLe := f.looked.property
  unfold apReadImgSizeFromStorage
  split
  · exact iff_of_true (Nat.zero_le _) (by omega)
  · dsimp only
    split
    · exact iff_of_true (Nat.zero_le _) (by omega)
    · rw [openCreate]
      constructor
      · exact fun h _ _ => h
      · exact fun h => h (by omega) (by omega)

/-- A read that answers 0 has come to its end. -/
lemma apRead_of_ret {f : ImageFaults} {path : List Char} {files : TagFiles}
    (h : (apReadImgFromStorage f path files).ret = 0) :
    (apReadImgFromStorage f path files).len
      = some (apReadImgFromStorage f path files).data.length := by
  by_cases hopened : f.opened.val < 0
  · rw [apRead_of_opened hopened] at h
    exact absurd h (Int.ne_of_lt hopened)
  · by_cases hlooked : f.looked.val < 0
    · rw [apRead_of_looked hopened hlooked, imageOut_eq_zero_iff] at h
      omega
    · rw [apRead_of_reached hopened hlooked] at h ⊢
      split at h
      · rw [imageOut_eq_zero_iff] at h
        omega
      · rename_i hread
        rw [if_neg hread]

/-- What the read has to be, for what `esl_c_obj_write_by_name` makes of it. -/
def TrustedRead (cfg : ApImageConfig) (file : Option (List UInt8)) (r : ImageRead) : Prop :=
  r.data.length ≤ cfg.imageFileSize
    ∧ (r.ret = 0 → ∃ content, file = some content ∧ content ≠ [] ∧ r.data = content)

/-- What has been put into the buffer is sent. -/
lemma sendsImage_send {file : Option (List UInt8)} (m : Mem) (data : List UInt8) (ret : ℤ)
    (written : List ℕ) {n : ℕ} (hn : data.length = n) :
    SendsImage cfg file ((⟨ret, m.write 0 data, written, lastImageCrc, files, none⟩ :
        ImageWrite).send crc32Ieee otc n)
      ↔ (∀ k ∈ written, k ≤ cfg.imageFileSize)
        ∧ ∃ content, file = some content ∧ content ≠ [] ∧ data = content := by
  subst hn
  have hsent : ((⟨ret, m.write 0 data, written, lastImageCrc, files, none⟩ : ImageWrite).send
      crc32Ieee otc data.length).sent = some data := congrArg some (Mem.read_write m 0 data)
  constructor
  · rintro ⟨hfits, hexact⟩
    exact ⟨hfits, hexact data hsent⟩
  · rintro ⟨hfits, hexact⟩
    refine ⟨hfits, fun data' hdata' => ?_⟩
    rw [hsent] at hdata'
    rwa [← Option.some.inj hdata']

/-- **The image is sent** as it has been read. -/
lemma sendsImage_of_file (h : SendsFile cfg otc connIdx tagImgIdx imgName)
    {file : Option (List UInt8)} :
    SendsImage cfg file (eslCObjWriteByName cfg crc32Ieee otc f₁ f₂ random connIdx tagImgIdx imgName
        imgObjBuf lastImageCrc files)
      ↔ (apReadImgSizeFromStorage f₁ (imgPath imgName) files).1 ≤ cfg.imageFileSize
        ∧ TrustedRead cfg file (apReadImgFromStorage f₂ (imgPath imgName)
          (apReadImgSizeFromStorage f₁ (imgPath imgName) files).2) := by
  have hconn := h.conn
  have hselect : ¬ otc.selectId (btOtsObjIdMin + tagImgIdx.toNat) ≠ 0 := not_not_intro h.select
  rw [eslCObjWriteByName, if_neg (by omega), if_neg hselect, if_neg h.file]
  dsimp only
  generalize hr : apReadImgFromStorage f₂ (imgPath imgName)
    (apReadImgSizeFromStorage f₁ (imgPath imgName) files).2 = r
  have hwritten : ∀ n : ℕ, (∀ k ∈ [n, r.data.length], k ≤ cfg.imageFileSize)
      ↔ n ≤ cfg.imageFileSize ∧ r.data.length ≤ cfg.imageFileSize := by
    intro n
    simp only [List.mem_cons, List.not_mem_nil, or_false, forall_eq_or_imp, forall_eq]
  by_cases hret : r.ret = 0
  · have hlen : r.len = some r.data.length := by
      subst hr
      exact apRead_of_ret hret
    rw [if_neg (not_not_intro hret), hlen, Option.getD_some, TrustedRead, sendsImage_send _ _ _ _ rfl,
      hwritten, and_assoc]
    exact and_congr_right fun _ => and_congr_right fun _ => ⟨fun h _ => h, fun h => h hret⟩
  · rw [if_pos hret, TrustedRead]
    constructor
    · rintro ⟨hfits, -⟩
      obtain ⟨hsize, hdata⟩ := (hwritten _).mp hfits
      exact ⟨hsize, hdata, fun hzero => absurd hzero hret⟩
    · rintro ⟨hsize, hdata, -⟩
      exact ⟨(hwritten _).mpr ⟨hsize, hdata⟩, fun data hnone => by cases hnone⟩

/-- **What can be trusted**: a call that fails, or a whole image. -/
lemma trustedRead_iff {f : ImageFaults} {path : List Char} {file : Option (List UInt8)}
    (hbytes : (files path).getD [] = file.getD []) :
    TrustedRead cfg file (apReadImgFromStorage f path files)
      ↔ f.opened.val < 0 ∨ f.looked.val < 0 ∨ MovesInto cfg f (file.getD [])
        ∧ (f.read.val < 0 ∨ f.closed.val < 0 ∨ ReadWhole f file) := by
  have hclosedLe := f.closed.property
  by_cases hopened : f.opened.val < 0
  · rw [apRead_of_opened hopened]
    exact iff_of_true ⟨Nat.zero_le _, fun hzero => absurd hzero (Int.ne_of_lt hopened)⟩
      (.inl hopened)
  · rw [or_iff_right hopened]
    by_cases hlooked : f.looked.val < 0
    · rw [apRead_of_looked hopened hlooked]
      refine iff_of_true ⟨Nat.zero_le _, fun hzero => ?_⟩ (.inl hlooked)
      have hnot := (imageOut_eq_zero_iff.mp hzero).2
      omega
    · rw [or_iff_right hlooked, apRead_of_reached hopened hlooked, hbytes]
      split
      · rename_i hread
        refine and_congr_right fun _ => iff_of_true (fun hzero => ?_) (.inl hread)
        have hnot := (imageOut_eq_zero_iff.mp hzero).2
        omega
      · rename_i hread
        rw [or_iff_right hread]
        refine and_congr_right fun _ => ?_
        dsimp only
        rw [imageOut_eq_zero_iff, and_iff_left (Int.natCast_nonneg _), readWhole_iff]
        have hpart : (∃ content, file = some content ∧ content ≠ []
              ∧ f.moves 0 (file.getD []) = content)
            ↔ ∃ content, file = some content ∧ content ≠ []
              ∧ f.moves 0 (file.getD []) = content
              ∧ some (f.moves 0 (file.getD [])).length = some content.length := by
          refine exists_congr fun content => and_congr_right fun _ => and_congr_right fun _ => ?_
          exact ⟨fun h => ⟨h, congrArg (some ·.length) h⟩, And.left⟩
        rw [hpart]
        constructor
        · intro h
          rcases Int.lt_or_le f.closed.val 0 with hneg | hnonneg
          · exact .inl hneg
          · exact .inr (h (by omega))
        · rintro (hneg | hwhole) hzero
          · omega
          · exact hwhole

/-- **When `esl_c_obj_write_by_name` is right.**  The random image of the test build would have to be
what the file holds. -/
theorem sendsImage_iff :
    SendsImage cfg (files (imgPath imgName))
        (eslCObjWriteByName cfg crc32Ieee otc f₁ f₂ random connIdx tagImgIdx imgName imgObjBuf
          lastImageCrc files)
      ↔ cfg.maxConn ≤ connIdx.toNat ∨ otc.selectId (btOtsObjIdMin + tagImgIdx.toNat) ≠ 0
        ∨ if cfg.pts = true ∧ imgName = "PTS".toList then
            100 ≤ cfg.imageFileSize ∧ files (imgPath imgName) = some random.toList
          else SendRight cfg f₁ f₂ (files (imgPath imgName)) := by
  by_cases hconn : cfg.maxConn ≤ connIdx.toNat
  · refine iff_of_true ?_ (.inl hconn)
    rw [eslCObjWriteByName, if_pos hconn]
    exact ⟨fun n hn => absurd hn List.not_mem_nil, fun data hnone => by cases hnone⟩
  · rw [or_iff_right hconn]
    by_cases hselect : otc.selectId (btOtsObjIdMin + tagImgIdx.toNat) ≠ 0
    · refine iff_of_true ?_ (.inl hselect)
      rw [eslCObjWriteByName, if_neg hconn, if_pos hselect]
      exact ⟨fun n hn => absurd hn List.not_mem_nil, fun data hnone => by cases hnone⟩
    · rw [or_iff_right hselect]
      by_cases hpts : cfg.pts = true ∧ imgName = "PTS".toList
      · rw [if_pos hpts, eslCObjWriteByName, if_neg hconn, if_neg hselect, if_pos hpts]
        have hlen : random.toList.length = 100 := Vector.length_toList ..
        refine (sendsImage_send imgObjBuf random.toList 0 [100] hlen).trans ?_
        simp only [List.mem_singleton, forall_eq]
        refine and_congr_right fun _ => ?_
        constructor
        · rintro ⟨content, hfile, -, hcontent⟩
          rw [hfile, hcontent]
        · intro hfile
          refine ⟨random.toList, hfile, ?_, rfl⟩
          exact List.ne_nil_of_length_eq_add_one hlen
      · rw [if_neg hpts, sendsImage_of_file ⟨by omega, not_not.mp hselect, hpts⟩,
          size_apReadImgSize_le_iff, trustedRead_iff (getD_apReadImgSize _ _ _)]
        exact Iff.rfl

end Sending

/-- **For which files and failures both functions are right.** -/
theorem apImageRead_iff (cfg : ApImageConfig) (crc32Ieee : List UInt8 → UInt32) (otc : OtsClient)
    (f f₁ f₂ : ImageFaults) (random : Vector UInt8 100) (connIdx tagImgIdx : UInt8)
    (path imgName : List Char) (imgObjBuf : Mem) (lastImageCrc : UInt32) (files : TagFiles) :
    (ReadsImage cfg f path files ↔ ReadRight cfg f (files path)) ∧
      (SendsImage cfg (files (imgPath imgName))
          (eslCObjWriteByName cfg crc32Ieee otc f₁ f₂ random connIdx tagImgIdx imgName imgObjBuf
            lastImageCrc files)
        ↔ cfg.maxConn ≤ connIdx.toNat ∨ otc.selectId (btOtsObjIdMin + tagImgIdx.toNat) ≠ 0
          ∨ if cfg.pts = true ∧ imgName = "PTS".toList then
              100 ≤ cfg.imageFileSize ∧ files (imgPath imgName) = some random.toList
            else SendRight cfg f₁ f₂ (files (imgPath imgName))) :=
  ⟨readsImage_iff, sendsImage_iff⟩

/-- An access point with the default buffer, and a tag that takes every image. -/
def apImageDefault : ApImageConfig := ⟨8, 20480, false, by decide⟩
def otcAccepts : OtsClient := ⟨fun _ => 0, fun _ => 0⟩

/-- No call fails, and there is no file: the read answers 0 and creates it, and an empty image is
sent. -/
theorem apImageRead_missing :
    let files : TagFiles := fun _ => none
    ¬ ReadsImage apImageDefault .none "/ots_image/a".toList files
      ∧ ¬ SendsImage apImageDefault (files (imgPath "a".toList))
        (eslCObjWriteByName apImageDefault (fun _ => 0) otcAccepts .none .none
          (Vector.replicate 100 0) 0 0 "a".toList (fun _ => 0) 0 files) := by
  refine ⟨fun h => ?_, fun h => ?_⟩
  · have hcreated := h.notCreated rfl
    cases hcreated
  · obtain ⟨content, hfile, -⟩ := h.sent [] rfl
    cases hfile

end NrfEsl
