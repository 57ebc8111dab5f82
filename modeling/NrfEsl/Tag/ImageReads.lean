import NrfEsl.Tag.ImageReference

/-!
# Reading images

What the read callbacks of `lfs.c` and `nvs.c` deliver on a `RefStore`, and what the callers of
`esl.c` find in the image buffer.

**LittleFS** seeks: a read delivers the part of the file it is asked for
(`exec_lfs_readImgFromStorage`), and leaves all files as they are.

**ZMS** has no position in a record: a read delivers the record from its start on, if the offset is
not behind the length asked for (`exec_nvs_readImgFromStorage`).
-/

namespace NrfEsl

/-- The part of an image that a read is to deliver. -/
def slice (content : List UInt8) (off len : ℕ) : List UInt8 := (content.drop off).take len

lemma length_slice {content : List UInt8} {off len : ℕ} (h : off + len ≤ content.length) :
    (slice content off len).length = len := by
  rw [slice, List.length_take, List.length_drop]
  omega

lemma slice_append_drop (content : List UInt8) (off m : ℕ) :
    slice content off m ++ content.drop (off + m) = content.drop off := by
  rw [slice, ← List.drop_drop, List.take_append_drop]

/-- What was just read is what stands in the buffer. -/
lemma read_write_slice (m : Mem) {content : List UInt8} {off len : ℕ}
    (hwithin : off + len ≤ content.length) :
    (m.write 0 (slice content off len)).read 0 len = slice content off len := by
  have h := Mem.read_write m 0 (slice content off len)
  rwa [length_slice hwithin] at h

namespace RefStore

variable {cfg : ImageConfig} {s : RefStore} {imgIdx : UInt8} {content : List UInt8}

/-- A file is there, and the file object is closed or open for it. -/
structure Holds (s : RefStore) (imgIdx : UInt8) (content : List UInt8) : Prop where
  stored : s.files.contents (imagePath imgIdx) = some content
  ready : s.files.ReadyFor (imagePath imgIdx)

/-- The store after a read from a file. -/
def afterRead (s : RefStore) (imgIdx : UInt8) (content : List UInt8) (off len : ℕ) : RefStore :=
  (s.withFiles ⟨s.files.contents,
    some (imagePath imgIdx, off + (slice content off len).length)⟩).withBuffer
      (s.imgObjBuf.write 0 (slice content off len))

lemma holds_afterRead (h : s.Holds imgIdx content) (off len : ℕ) :
    (s.afterRead imgIdx content off len).Holds imgIdx content :=
  ⟨h.stored, .inr rfl⟩

/-- Opening a file that is there changes no file. -/
lemma contents_created (h : s.files.contents (imagePath imgIdx) = some content) :
    (s.created imgIdx).contents = s.files.contents := by
  rw [created, h, Option.getD_some, ← h, Function.update_eq_self]

lemma exec_fsRead {pos : ℕ} (h : s.OpenAt (imagePath imgIdx) pos)
    (hstored : s.files.contents (imagePath imgIdx) = some content) (len : ℕ) :
    (Lfs.fsRead len).exec (flashSem cfg) s
      = (((slice content pos len).length : Int), s.afterRead imgIdx content pos len) := by
  rw [OpenAt] at h
  show ((FileSystem.ref (.read len) s.files).1.1,
    (s.withFiles (FileSystem.ref (.read len) s.files).2).fill
      (FileSystem.ref (.read len) s.files).1.2) = _
  simp only [FileSystem.ref, h, hstored, Option.getD_some]
  rfl

/-- Seeking and reading in an open file. -/
lemma exec_seekRead {pos : ℕ} (h : s.OpenAt (imagePath imgIdx) pos)
    (hstored : s.files.contents (imagePath imgIdx) = some content) (len off : ℕ) :
    ((Lfs.fsSeek off).bind fun rc => if rc < 0 then return rc else Lfs.fsRead len).exec
        (flashSem cfg) s
      = (((slice content off len).length : Int), s.afterRead imgIdx content off len) := by
  have hat : (s.withFiles ⟨s.files.contents, some (imagePath imgIdx, off)⟩).OpenAt
      (imagePath imgIdx) off := rfl
  simp only [Program.exec_bind, exec_fsSeek h]
  exact exec_fsRead hat hstored len

/-- `read_img_from_storage` of `lfs.c` -/
lemma exec_lfs_readImgFromStorage (h : s.Holds imgIdx content) (len off : ℕ) :
    (Lfs.readImgFromStorage imgIdx len off).exec (flashSem cfg) s
      = (((slice content off len).length : Int), s.afterRead imgIdx content off len) := by
  show ((Lfs.openIfClosed imgIdx).bind fun _ => (Lfs.fsSeek off).bind fun rc =>
    if rc < 0 then return rc else Lfs.fsRead len).exec (flashSem cfg) s = _
  rw [Program.exec_bind]
  by_cases hnone : s.files.file = none
  · have hat : (s.withFiles (s.created imgIdx)).OpenAt (imagePath imgIdx) 0 := rfl
    have hcontents := contents_created h.stored
    have hstored : (s.withFiles (s.created imgIdx)).files.contents (imagePath imgIdx)
        = some content := by
      rw [files_withFiles, hcontents, h.stored]
    rw [exec_openIfClosed_of_closed hnone, exec_seekRead hat hstored]
    refine congrArg (Prod.mk _) ?_
    simp only [afterRead, files_withFiles, hcontents]
    rfl
  · obtain ⟨pos, hopen⟩ := openAt_of_readyFor h.ready hnone
    rw [exec_openIfClosed_of_open hopen, exec_seekRead hopen h.stored]

lemma callSem_readImg_lfs (hbuild : cfg.build = .lfs) (h : s.Holds imgIdx content) (len off : ℕ) :
    callSem cfg (.readImg imgIdx len off) s
      = (((slice content off len).length : Int), s.afterRead imgIdx content off len) := by
  simp only [callSem, impl, hbuild]
  exact exec_lfs_readImgFromStorage h len off

/-- Closing an image leaves the buffer. -/
lemma imgObjBuf_closeImage (s : RefStore) :
    (callSem cfg .closeImage s).2.imgObjBuf = s.imgObjBuf := by
  cases hbuild : cfg.build with
  | lfs => rw [callSem_closeImage_lfs hbuild, imgObjBuf_withFiles]
  | nvs =>
      simp only [callSem, impl, hbuild]
      rfl

/-- The store whose buffer was cleared. -/
def cleared (cfg : ImageConfig) (s : RefStore) : RefStore :=
  s.fill (List.replicate cfg.imageBufferSize 0)

/-- `ots_obj_cal_checksum` on a file: the part asked for, and the file is closed. -/
lemma exec_otsObjCalChecksum_lfs (hbuild : cfg.build = .lfs) (hmax : imgIdx.toNat ≤ cfg.imageMax)
    (h : s.Holds imgIdx content) (off len : ℕ) :
    (otsObjCalChecksum cfg imgIdx off len).exec (callSem cfg) s
      = (0, ((s.cleared cfg).afterRead imgIdx content off len).withFiles
          ⟨s.files.contents, none⟩) := by
  have hcheck : ¬ cfg.imageMax < imgIdx.toNat := by omega
  have hcleared : (s.cleared cfg).Holds imgIdx content := ⟨h.stored, h.ready⟩
  rw [otsObjCalChecksum, if_neg hcheck]
  show ((0 : Int), (callSem cfg .closeImage
    (callSem cfg (.readImg imgIdx len off) (s.cleared cfg)).2).2) = _
  rw [callSem_readImg_lfs hbuild hcleared, callSem_closeImage_lfs hbuild]
  rfl

/-- `read_img_from_storage` of `nvs.c` -/
lemma exec_nvs_readImgFromStorage (hrecord : s.records imgIdx.toNat = some content) {len off : ℕ}
    (h : off ≤ len) :
    (Nvs.readImgFromStorage imgIdx len off).exec (flashSem cfg) s
      = (((slice content 0 len).length : Int),
          s.withBuffer (s.imgObjBuf.write 0 (slice content 0 len))) := by
  have hcheck : ¬ ((off : Int) < 0 ∨ (len : Int) < off) := by omega
  simp only [Nvs.readImgFromStorage, if_neg hcheck]
  show ((RecordStore.ref (.read imgIdx.toNat len) s.records).1.1,
    (s.withRecords (RecordStore.ref (.read imgIdx.toNat len) s.records).2).fill
      (RecordStore.ref (.read imgIdx.toNat len) s.records).1.2) = _
  simp only [RecordStore.ref, hrecord]
  rfl

/-- An offset behind the length is refused. -/
lemma exec_nvs_readImgFromStorage_refused {len off : ℕ} (h : len < off) :
    (Nvs.readImgFromStorage imgIdx len off).exec (flashSem cfg) s = (FileSystem.einval, s) := by
  have hcheck : (off : Int) < 0 ∨ (len : Int) < off := by omega
  simp only [Nvs.readImgFromStorage, if_pos hcheck]
  rfl

/-- A store with the file of one image, and nothing else. -/
def oneFile (imgIdx : UInt8) (content : List UInt8) : RefStore where
  volume := ⟨Function.update (fun _ => none) (imagePath imgIdx) (some content), none⟩
  zms := fun _ => none
  imgObjBuf := fun _ => 0
  storedImageSize := fun _ => 0
  panel := []

lemma holds_oneFile (imgIdx : UInt8) (content : List UInt8) :
    (oneFile imgIdx content).Holds imgIdx content := by
  refine ⟨?_, .inl rfl⟩
  show Function.update (fun _ => none) (imagePath imgIdx) (some content) (imagePath imgIdx) = _
  rw [Function.update_self]

end RefStore

end NrfEsl
