import NrfEsl.Tag.ImageObjects

/-!
# The image store over reliable devices

When no call of the file system and of ZMS fails, the flash does what their documentation says, and
only what can be observed of it matters.  `RefStore` is the image store over this behaviour itself,
`ImageStore.observed` the part of a store that can be observed, and `exec_observed` says that every
program does on a store with reliable devices what it does on the observed one.

On a `RefStore` the callbacks have closed forms.  A write to an image finds the file object closed or
open for it and replaces a range of the file; a whole `ots_obj_write` leaves the object closed.
-/

namespace NrfEsl

/-- The file system and ZMS as documented, without failures. -/
abbrev RefStore :=
  ImageStore (Device.ofRef (FileSystem.interface Path)) (Device.ofRef (RecordStore.interface ℕ))

variable (cfg : ImageConfig) {F : Device (FileSystem.interface Path)}
  {Z : Device (RecordStore.interface ℕ)}

namespace RefStore

/-- The store with other files. -/
def withFiles (s : RefStore) (v : FileSystem.View Path) : RefStore := { s with volume := v }

/-- The store with other records. -/
def withRecords (s : RefStore) (v : RecordStore.View ℕ) : RefStore := { s with zms := v }

/-- The store with another buffer. -/
def withBuffer (s : RefStore) (m : Mem) : RefStore := { s with imgObjBuf := m }

/-- The store with the size of one image set. -/
def withSize (s : RefStore) (imgIdx : UInt8) (size : UInt32) : RefStore :=
  { s with storedImageSize := Function.update s.storedImageSize imgIdx.toNat size }

variable (s : RefStore) (v : FileSystem.View Path) (w : RecordStore.View ℕ) (m : Mem) (i : UInt8)
  (size : UInt32)

@[simp] lemma files_withFiles : (s.withFiles v).files = v := rfl
@[simp] lemma files_withRecords : (s.withRecords w).files = s.files := rfl
@[simp] lemma files_withBuffer : (s.withBuffer m).files = s.files := rfl
@[simp] lemma files_withSize : (s.withSize i size).files = s.files := rfl
@[simp] lemma records_withFiles : (s.withFiles v).records = s.records := rfl
@[simp] lemma records_withRecords : (s.withRecords w).records = w := rfl
@[simp] lemma records_withBuffer : (s.withBuffer m).records = s.records := rfl
@[simp] lemma records_withSize : (s.withSize i size).records = s.records := rfl
@[simp] lemma imgObjBuf_withFiles : (s.withFiles v).imgObjBuf = s.imgObjBuf := rfl
@[simp] lemma imgObjBuf_withRecords : (s.withRecords w).imgObjBuf = s.imgObjBuf := rfl
@[simp] lemma imgObjBuf_withBuffer : (s.withBuffer m).imgObjBuf = m := rfl
@[simp] lemma imgObjBuf_withSize : (s.withSize i size).imgObjBuf = s.imgObjBuf := rfl
@[simp] lemma size_withFiles : (s.withFiles v).storedImageSize = s.storedImageSize := rfl
@[simp] lemma size_withRecords : (s.withRecords w).storedImageSize = s.storedImageSize := rfl
@[simp] lemma size_withBuffer : (s.withBuffer m).storedImageSize = s.storedImageSize := rfl
@[simp] lemma size_withSize : (s.withSize i size).storedImageSize
    = Function.update s.storedImageSize i.toNat size := rfl
@[simp] lemma withFiles_withFiles (v' : FileSystem.View Path) :
    (s.withFiles v).withFiles v' = s.withFiles v' := rfl
@[simp] lemma withRecords_withRecords (w' : RecordStore.View ℕ) :
    (s.withRecords w).withRecords w' = s.withRecords w' := rfl

end RefStore

/-! ## Reliable devices -/

/-- What can be observed of a store. -/
def ImageStore.observed (s : ImageStore F Z) : RefStore where
  volume := s.files
  zms := s.records
  imgObjBuf := s.imgObjBuf
  storedImageSize := s.storedImageSize
  panel := s.panel

section Reliable

variable {cfg} (hF : F.Reliable) (hZ : Z.Reliable) (s : ImageStore F Z)

include hF in
lemma fileCall_observed (c : FileSystem.Call Path) :
    s.observed.fileCall c = ((s.fileCall c).1, (s.fileCall c).2.observed) := by
  have h : FileSystem.ref c s.files = ((s.fileCall c).1, (s.fileCall c).2.files) := hF c s.volume
  show ((FileSystem.ref c s.files).1, s.observed.withFiles (FileSystem.ref c s.files).2) = _
  rw [h]
  rfl

include hZ in
lemma recordCall_observed (c : RecordStore.Call ℕ) :
    s.observed.recordCall c = ((s.recordCall c).1, (s.recordCall c).2.observed) := by
  have h : RecordStore.ref c s.records = ((s.recordCall c).1, (s.recordCall c).2.records) :=
    hZ c s.zms
  show ((RecordStore.ref c s.records).1, s.observed.withRecords (RecordStore.ref c s.records).2) = _
  rw [h]
  rfl

include hF hZ

/-- A call of a reliable device is the call on what can be observed. -/
lemma flashSem_observed (c : FlashCall) :
    flashSem cfg c s.observed = ((flashSem cfg c s).1, (flashSem cfg c s).2.observed) := by
  cases c with
  | ram c => cases c <;> rfl
  | file c => exact fileCall_observed hF s c
  | fsWrite len => exact fileCall_observed hF s _
  | fsRead len =>
      show ((s.observed.fileCall (.read len)).1.1,
        (s.observed.fileCall (.read len)).2.fill (s.observed.fileCall (.read len)).1.2) = _
      rw [fileCall_observed hF]
      rfl
  | record c => exact recordCall_observed hZ s c
  | zmsWrite id len => exact recordCall_observed hZ s _
  | zmsRead id len =>
      show ((s.observed.recordCall (.read id len)).1.1,
        (s.observed.recordCall (.read id len)).2.fill (s.observed.recordCall (.read id len)).1.2) = _
      rw [recordCall_observed hZ]
      rfl

/-- **Refinement.**  Every program does on reliable devices what it does on what can be observed. -/
theorem exec_observed {α : Type} (prog : FlashProgram α) :
    prog.exec (flashSem cfg) s.observed
      = ((prog.exec (flashSem cfg) s).1, (prog.exec (flashSem cfg) s).2.observed) :=
  Program.exec_map (fun c s => flashSem_observed hF hZ s c) prog s

/-- The same for programs of callbacks. -/
theorem exec_callSem_observed {α : Type} (prog : ImageProgram α) :
    prog.exec (callSem cfg) s.observed
      = ((prog.exec (callSem cfg) s).1, (prog.exec (callSem cfg) s).2.observed) :=
  Program.exec_map (fun c s => exec_observed hF hZ s (impl cfg c)) prog s

end Reliable

/-! ## The callbacks of `lfs.c` -/

namespace RefStore

variable {cfg} {s : RefStore} {imgIdx : UInt8}

/-- The file object is open for a path, at a position. -/
def OpenAt (s : RefStore) (p : Path) (pos : ℕ) : Prop := s.files.file = some (p, pos)

lemma exec_fileIsOpen : Lfs.fileIsOpen.exec (flashSem cfg) s = (s.files.file.isSome, s) := rfl

lemma exec_fsFileTInit :
    Lfs.fsFileTInit.exec (flashSem cfg) s = ((), s.withFiles ⟨s.files.contents, none⟩) := rfl

lemma exec_fsClose :
    Lfs.fsClose.exec (flashSem cfg) s = (0, s.withFiles ⟨s.files.contents, none⟩) := rfl

lemma exec_fsOpen {p : Path} (h : s.files.file = none) :
    (Lfs.fsOpen p).exec (flashSem cfg) s
      = (0, s.withFiles ⟨Function.update s.files.contents p (some ((s.files.contents p).getD [])),
          some (p, 0)⟩) := by
  show ((FileSystem.ref (.openFile p) s.files).1, s.withFiles (FileSystem.ref (.openFile p) s.files).2)
    = _
  simp only [FileSystem.ref, h]

lemma exec_fsSync {p : Path} {pos : ℕ} (h : s.OpenAt p pos) :
    Lfs.fsSync.exec (flashSem cfg) s = (0, s) := by
  show ((FileSystem.ref .sync s.files).1, s.withFiles (FileSystem.ref .sync s.files).2) = _
  rw [OpenAt] at h
  simp only [FileSystem.ref, h]
  rfl

lemma exec_fsSeek {p : Path} {pos : ℕ} (h : s.OpenAt p pos) (off : ℕ) :
    (Lfs.fsSeek off).exec (flashSem cfg) s
      = (0, s.withFiles ⟨s.files.contents, some (p, off)⟩) := by
  have hneg : ¬ (off : Int) < 0 := by omega
  rw [OpenAt] at h
  show ((FileSystem.ref (.seek off) s.files).1, s.withFiles (FileSystem.ref (.seek off) s.files).2)
    = _
  simp only [FileSystem.ref, h, if_neg hneg, Int.toNat_natCast]

lemma exec_fsWrite {p : Path} {pos : ℕ} (h : s.OpenAt p pos) (len : ℕ) :
    (Lfs.fsWrite len).exec (flashSem cfg) s
      = ((len : Int), s.withFiles ⟨Function.update s.files.contents p
          (some (FileSystem.overwrite ((s.files.contents p).getD []) pos (s.imgObjBuf.read 0 len))),
          some (p, pos + len)⟩) := by
  rw [OpenAt] at h
  show ((FileSystem.ref (.write (s.imgObjBuf.read 0 len)) s.files).1,
    s.withFiles (FileSystem.ref (.write (s.imgObjBuf.read 0 len)) s.files).2) = _
  simp only [FileSystem.ref, h, Mem.length_read]

lemma openAt_of_readyFor {p : Path} (h : s.files.ReadyFor p) (hnone : s.files.file ≠ none) :
    ∃ pos, s.OpenAt p pos := by
  rcases h with hclosed | hopen
  · exact absurd hclosed hnone
  · obtain ⟨⟨q, pos⟩, hfile, rfl⟩ := Option.map_eq_some_iff.mp hopen
    exact ⟨pos, hfile⟩

lemma isSome_of_openAt {p : Path} {pos : ℕ} (h : s.OpenAt p pos) :
    s.files.file.isSome = true := by
  rw [OpenAt] at h
  rw [h]
  rfl

/-- The files when the one of an image was just opened, and created if it was not there. -/
def created (s : RefStore) (imgIdx : UInt8) : FileSystem.View Path :=
  ⟨Function.update s.files.contents (imagePath imgIdx)
    (some ((s.files.contents (imagePath imgIdx)).getD [])), some (imagePath imgIdx, 0)⟩

/-- `open_image_from_storage` on a closed object. -/
lemma exec_lfs_openImageFromStorage (h : s.files.file = none) :
    (Lfs.openImageFromStorage imgIdx).exec (flashSem cfg) s = (0, s.withFiles (s.created imgIdx)) := by
  have hclosed : (s.withFiles ⟨s.files.contents, none⟩).files.file = none := rfl
  simp only [Lfs.openImageFromStorage, Program.bind_eq_bind, Program.exec_bind, exec_fileIsOpen, h,
    Option.isSome_none, Bool.false_eq_true, if_false, exec_fsFileTInit]
  exact exec_fsOpen hclosed

/-- The first lines of a write or a read on a closed object. -/
lemma exec_openIfClosed_of_closed (h : s.files.file = none) :
    (Lfs.openIfClosed imgIdx).exec (flashSem cfg) s = ((), s.withFiles (s.created imgIdx)) := by
  simp only [Lfs.openIfClosed, Program.bind_eq_bind, Program.exec_bind, exec_fileIsOpen, h,
    Option.isSome_none, Bool.false_eq_true, if_false, exec_lfs_openImageFromStorage h]
  rfl

/-- And on an open one. -/
lemma exec_openIfClosed_of_open {p : Path} {pos : ℕ} (h : s.OpenAt p pos) :
    (Lfs.openIfClosed imgIdx).exec (flashSem cfg) s = ((), s) := by
  simp only [Lfs.openIfClosed, Program.bind_eq_bind, Program.exec_bind, exec_fileIsOpen,
    isSome_of_openAt h, if_true]
  rfl

/-- The contents of a file that is there after a write, whatever is there before. -/
def written (s : RefStore) (p : Path) (off : ℕ) (data : List UInt8) : Path → Option (List UInt8) :=
  Function.update s.files.contents p
    (some (FileSystem.overwrite ((s.files.contents p).getD []) off data))

/-- Creating an empty file first makes no difference to what a write leaves. -/
lemma written_of_created (off : ℕ) (data : List UInt8) :
    (s.withFiles (s.created imgIdx)).written (imagePath imgIdx) off data
      = s.written (imagePath imgIdx) off data := by
  simp only [written, created, files_withFiles, Function.update_idem, Function.update_self,
    Option.getD_some]

/-- Seeking and writing in an open file. -/
lemma exec_seekWrite {p : Path} {pos : ℕ} (h : s.OpenAt p pos) (len off : ℕ) :
    ((Lfs.fsSeek off).bind fun rc => if rc < 0 then return rc else Lfs.fsWrite len).exec
        (flashSem cfg) s
      = ((len : Int), s.withFiles ⟨s.written p off (s.imgObjBuf.read 0 len), some (p, off + len)⟩) := by
  have hat : (s.withFiles ⟨s.files.contents, some (p, off)⟩).OpenAt p off := rfl
  simp only [Program.exec_bind, exec_fsSeek h]
  exact exec_fsWrite hat len

/-- `write_img_to_storage` -/
lemma exec_lfs_writeImgToStorage (h : s.files.ReadyFor (imagePath imgIdx)) (len off : ℕ) :
    (Lfs.writeImgToStorage imgIdx len off).exec (flashSem cfg) s
      = ((len : Int), s.withFiles ⟨s.written (imagePath imgIdx) off (s.imgObjBuf.read 0 len),
          some (imagePath imgIdx, off + len)⟩) := by
  show ((Lfs.openIfClosed imgIdx).bind fun _ => (Lfs.fsSeek off).bind fun rc =>
    if rc < 0 then return rc else Lfs.fsWrite len).exec (flashSem cfg) s = _
  rw [Program.exec_bind]
  by_cases hnone : s.files.file = none
  · have hat : (s.withFiles (s.created imgIdx)).OpenAt (imagePath imgIdx) 0 := rfl
    rw [exec_openIfClosed_of_closed hnone, exec_seekWrite hat, written_of_created]
    rfl
  · obtain ⟨pos, hopen⟩ := openAt_of_readyFor h hnone
    rw [exec_openIfClosed_of_open hopen, exec_seekWrite hopen]

/-- `close_image_from_storage` -/
lemma exec_lfs_closeImageFromStorage :
    (Lfs.closeImageFromStorage.exec (flashSem cfg) s).2
      = s.withFiles ⟨s.files.contents, none⟩ := by
  by_cases hnone : s.files.file = none
  · simp only [Lfs.closeImageFromStorage, Program.bind_eq_bind, Program.exec_bind, exec_fileIsOpen,
      hnone, Option.isSome_none, Bool.false_eq_true, if_false]
    rw [← hnone]
    rfl
  · obtain ⟨f, hfile⟩ := Option.ne_none_iff_exists'.mp hnone
    have hopen : s.OpenAt f.1 f.2 := hfile
    simp only [Lfs.closeImageFromStorage, Program.bind_eq_bind, Program.exec_bind, exec_fileIsOpen,
      isSome_of_openAt hopen, if_true, exec_fsSync hopen, exec_fsClose]

/-! ## The callbacks of `nvs.c` -/

lemma recordCall_eq (c : RecordStore.Call ℕ) (s : RefStore) :
    s.recordCall c = ((RecordStore.ref c s.records).1, s.withRecords (RecordStore.ref c s.records).2) :=
  rfl

/-- The records after the content and the size of an image were written. -/
def recorded (s : RefStore) (imgIdx : UInt8) (len : ℕ) : ℕ → Option (List UInt8) :=
  Function.update
    (Function.update s.records imgIdx.toNat
      (if s.imgObjBuf.read 0 len = [] then none else some (s.imgObjBuf.read 0 len)))
    (imgIdx.toNat + imgSizeOffset) (some (le32Bytes (UInt32.ofNat len)))

/-- `write_img_to_storage` -/
lemma exec_nvs_writeImgToStorage (len : ℕ) (off : Int) :
    ((Nvs.writeImgToStorage imgIdx len off).exec (flashSem cfg) s).2
      = s.withRecords (s.recorded imgIdx len) := by
  have hrc := RecordStore.zero_le_ref_write imgIdx.toNat (s.imgObjBuf.read 0 len) s.records
  have hcontent := RecordStore.ref_write imgIdx.toNat (s.imgObjBuf.read 0 len) s.records
  have hsize := RecordStore.ref_write (imgIdx.toNat + imgSizeOffset) (le32Bytes (UInt32.ofNat len))
    (RecordStore.ref (.write imgIdx.toNat (s.imgObjBuf.read 0 len)) s.records).2
  have hne : le32Bytes (UInt32.ofNat len) ≠ [] := List.cons_ne_nil _ _
  have hfirst : (Nvs.zmsWrite imgIdx.toNat len).exec (flashSem cfg) s
      = s.recordCall (.write imgIdx.toNat (s.imgObjBuf.read 0 len)) := rfl
  simp only [Nvs.writeImgToStorage, Program.bind_eq_bind, Program.exec_bind, hfirst, recordCall_eq,
    if_neg (Int.not_lt.mpr hrc)]
  refine congrArg s.withRecords (hsize.trans ?_)
  rw [hcontent, if_neg hne]
  rfl

/-! ## `ots_obj_write` -/

lemma callSem_writeImg_nvs (hbuild : cfg.build = .nvs) (len : ℕ) (off : Int) (s : RefStore) :
    (callSem cfg (.writeImg imgIdx len off) s).2 = s.withRecords (s.recorded imgIdx len) := by
  simp only [callSem, impl, hbuild]
  exact exec_nvs_writeImgToStorage len off

lemma callSem_writeImg_lfs (hbuild : cfg.build = .lfs) {s : RefStore}
    (h : s.files.ReadyFor (imagePath imgIdx)) (len off : ℕ) :
    callSem cfg (.writeImg imgIdx len off) s
      = ((len : Int), s.withFiles ⟨s.written (imagePath imgIdx) off (s.imgObjBuf.read 0 len),
          some (imagePath imgIdx, off + len)⟩) := by
  simp only [callSem, impl, hbuild]
  exact exec_lfs_writeImgToStorage h len off

lemma callSem_closeImage_lfs (hbuild : cfg.build = .lfs) (s : RefStore) :
    (callSem cfg .closeImage s).2 = s.withFiles ⟨s.files.contents, none⟩ := by
  simp only [callSem, impl, hbuild]
  exact exec_lfs_closeImageFromStorage

/-- The buffer after `buffer_img`. -/
def buffered (cfg : ImageConfig) (s : RefStore) (data : List UInt8) (off : ℕ) : Mem :=
  if off + data.length ≤ cfg.imageBufferSize then s.imgObjBuf.write off data else s.imgObjBuf

lemma exec_bufferImg (data : List UInt8) (off : ℕ) :
    ((bufferImg cfg data off).exec (callSem cfg) s).2 = s.withBuffer (buffered cfg s data off) := by
  by_cases hfits : off + data.length ≤ cfg.imageBufferSize
  · have hcheck : ¬ ((off : Int) < 0 ∨ (cfg.imageBufferSize : Int) < off
        ∨ (cfg.imageBufferSize : Int) - off < data.length) := by omega
    simp only [bufferImg, if_neg hcheck, buffered, if_pos hfits]
    rfl
  · have hcheck : (off : Int) < 0 ∨ (cfg.imageBufferSize : Int) < off
        ∨ (cfg.imageBufferSize : Int) - off < data.length := by omega
    simp only [bufferImg, if_pos hcheck, buffered, if_neg hfits]
    rfl

/-- The size of an image whose last chunk is at an offset. -/
def sizeAfter (off : ℕ) (data : List UInt8) : UInt32 := UInt32.ofInt (off + data.length)

/-- One chunk in a build with ZMS: it is buffered, and the last one stores the whole buffer. -/
lemma exec_otsObjWrite_nvs (hbuild : cfg.build = .nvs) (data : List UInt8) (off rem : ℕ) :
    ((otsObjWrite cfg imgIdx data off rem).exec (callSem cfg) s).2
      = let s := s.withBuffer (buffered cfg s data off)
        if rem = 0 then
          (s.withRecords (s.recorded imgIdx (sizeAfter off data).toNat)).withSize imgIdx
            (sizeAfter off data)
        else s := by
  simp only [otsObjWrite, hbuild, Program.bind_eq_bind, Program.exec_bind, exec_bufferImg]
  by_cases hrem : rem = 0
  · simp only [if_pos hrem, Program.exec_bind]
    exact callSem_writeImg_nvs hbuild _ 0
      ((s.withBuffer (buffered cfg s data off)).withSize imgIdx (sizeAfter off data))
  · simp only [if_neg hrem]
    rfl

/-- The first attempt succeeds. -/
lemma exec_writeRetry (hbuild : cfg.build = .lfs) (h : s.files.ReadyFor (imagePath imgIdx))
    (len off n : ℕ) :
    ((writeRetry imgIdx len off (n + 1)).exec (callSem cfg) s).2
      = s.withFiles ⟨s.written (imagePath imgIdx) off (s.imgObjBuf.read 0 len),
          some (imagePath imgIdx, off + len)⟩ := by
  have hlen : ¬ (len : Int) < 0 := by omega
  simp only [writeRetry, Program.bind_eq_bind, Program.exec_bind, Program.exec_perform,
    callSem_writeImg_lfs hbuild h, if_neg hlen]
  rfl

/-- One chunk in a build with LittleFS: it is written at its offset, and the file is closed. -/
lemma exec_otsObjWrite_lfs (hbuild : cfg.build = .lfs) (h : s.files.ReadyFor (imagePath imgIdx))
    (data : List UInt8) (off rem : ℕ) :
    ((otsObjWrite cfg imgIdx data off rem).exec (callSem cfg) s).2
      = let t := (s.withBuffer (s.imgObjBuf.write 0 data)).withFiles
          ⟨s.written (imagePath imgIdx) off data, none⟩
        if rem = 0 then t.withSize imgIdx (sizeAfter off data) else t := by
  have hcopy : (imageCall (.ram (.memcpy data 0))).exec (callSem cfg) s
      = ((), s.withBuffer (s.imgObjBuf.write 0 data)) := rfl
  have hready : (s.withBuffer (s.imgObjBuf.write 0 data)).files.ReadyFor (imagePath imgIdx) := h
  simp only [otsObjWrite, hbuild, Program.bind_eq_bind, Program.exec_bind, hcopy, otsLfsRetry,
    exec_writeRetry hbuild hready, Program.exec_perform, callSem_closeImage_lfs hbuild,
    imgObjBuf_withBuffer, Mem.read_write, withFiles_withFiles, files_withFiles]
  by_cases hrem : rem = 0
  · simp only [if_pos hrem]
    rfl
  · simp only [if_neg hrem]
    rfl

end RefStore

end NrfEsl
