import NrfEsl.Lib.TransitionSystem
import NrfEsl.Tag.ImageUpload

/-!
# The size of an image

The tag keeps the size of an image three times: in `stored_image_size`, as the length of the file or
as a record of ZMS, and, implicitly, in what the client sent.  `SizesAgree` says that they agree for
every image; the number of bytes of the last upload is a history variable.

Uploads, factory resets and reboots are the events.  Every storage operation succeeds, so that the
devices are reliable and the run can be followed on what is observed of them (`ImageStore.observed`).

**When they agree** (`sizesAgree_iff`).  With ZMS in every run.  With LittleFS in exactly the runs in
which no upload is shorter than the file it replaces: a file is overwritten from its start and never
truncated.
-/

namespace NrfEsl

open TransitionSystem

variable (cfg : ImageConfig) {F : Device (FileSystem.interface Path)}
  {Z : Device (RecordStore.interface ℕ)}

/-- What happens to the images of a tag. -/
inductive SizeEvent (cfg : ImageConfig)
  | upload (u : Upload cfg)
  | factoryReset
  | reboot

/-- The store of a tag that starts: RAM is cleared. -/
def ImageStore.restarted (s : ImageStore F Z) : ImageStore F Z :=
  { s with
    imgObjBuf := fun _ => 0
    storedImageSize := fun _ => 0
    panel := [] }

/-- One event. -/
def sizeStep (s : ImageStore F Z) : SizeEvent cfg → Option (ImageStore F Z)
  | .upload u => some ((u.program cfg).exec (callSem cfg) s).2
  | .factoryReset => some ((ImageProgram.btEslDeleteImages cfg).exec (callSem cfg) s).2
  | .reboot => some ((imageStorageBoot cfg).exec (flashSem cfg) s.restarted).2

/-- The length of the last upload of every image since the last factory reset. -/
def lastUpload (_ : ImageStore F Z) (e : SizeEvent cfg) (_ : ImageStore F Z) (last : ℕ → ℕ) : ℕ → ℕ :=
  match e with
  | .upload u => Function.update last u.imgIdx.toNat u.bytes.length
  | .factoryReset => fun _ => 0
  | .reboot => last

/-- Stores with that history. -/
abbrev SizeState (F : Device (FileSystem.interface Path)) (Z : Device (RecordStore.interface ℕ)) :=
  ImageStore F Z × (ℕ → ℕ)

/-- The size of an image in storage. -/
def ImageStore.imageSize (s : ImageStore F Z) (imgIdx : UInt8) : ℕ :=
  (callSem cfg (.readImgSize imgIdx) s).1

/-- **Size agreement.** -/
def SizesAgree (x : SizeState F Z) : Prop :=
  ∀ i : UInt8, i.toNat < cfg.imageMax →
    (x.1.storedImageSize i.toNat).toNat = x.1.imageSize cfg i ∧ x.1.imageSize cfg i = x.2 i.toNat

/-- An upload to LittleFS is not shorter than the file that is there. -/
def NotShorter (x : SizeState F Z) : SizeEvent cfg → Prop
  | .upload u => cfg.build = .lfs → x.1.fileLength u.imgIdx ≤ u.bytes.length
  | .factoryReset | .reboot => True

/-- A state between two events: the sizes agree and no file is open. -/
structure Settled (x : SizeState F Z) : Prop where
  agree : SizesAgree cfg x
  closed : cfg.build = .lfs → x.1.files.file = none

/-! ## Sizes in storage -/

section Reference

namespace RefStore

variable {cfg} {s : RefStore}

lemma exec_fsStat (p : Path) (s : RefStore) :
    (Lfs.fsStat p).exec (flashSem cfg) s
      = ((s.files.contents p).elim (FileSystem.enoent, 0) fun c => (0, c.length), s) := by
  show ((FileSystem.ref (.stat p) s.files).1, s.withFiles (FileSystem.ref (.stat p) s.files).2) = _
  cases hfile : s.files.contents p with
  | none =>
      simp only [FileSystem.ref, hfile]
      rfl
  | some c =>
      simp only [FileSystem.ref, hfile]
      rfl

/-- The size of a file. -/
lemma callSem_readImgSize_lfs (hbuild : cfg.build = .lfs) (i : UInt8) (s : RefStore) :
    callSem cfg (.readImgSize i) s = (s.fileLength i, s) := by
  simp only [callSem, impl, hbuild, Lfs.readImgSizeFromStorage, Program.bind_eq_bind,
    Program.exec_bind, exec_fsStat, ImageStore.fileLength]
  cases s.files.contents (imagePath i) with
  | none => rfl
  | some c => rfl

/-- The size that a record says. -/
def recordedSize (s : RefStore) (i : UInt8) : ℕ :=
  (s.records (i.toNat + imgSizeOffset)).elim 0 fun b =>
    (sysGetLe32 (Mem.ofBytes (b.take 4) fun _ => 0) 0).toNat

lemma exec_zmsReadSize (id : ℕ) (s : RefStore) :
    (Nvs.zmsReadSize id).exec (flashSem cfg) s
      = ((s.records id).elim (-2, []) fun b => (((b.take 4).length : Int), b.take 4), s) := by
  show ((RecordStore.ref (.read id 4) s.records).1,
    s.withRecords (RecordStore.ref (.read id 4) s.records).2) = _
  cases hrecord : s.records id with
  | none =>
      simp only [RecordStore.ref, hrecord]
      rfl
  | some b =>
      simp only [RecordStore.ref, hrecord]
      rfl

lemma callSem_readImgSize_nvs (hbuild : cfg.build = .nvs) (i : UInt8) (s : RefStore) :
    callSem cfg (.readImgSize i) s = (s.recordedSize i, s) := by
  simp only [callSem, impl, hbuild, Nvs.readImgSizeFromStorage, Program.bind_eq_bind,
    Program.exec_bind, exec_zmsReadSize, recordedSize]
  cases s.records (i.toNat + imgSizeOffset) with
  | none => rfl
  | some b => rfl

/-- The size that was recorded is read back. -/
lemma recordedSize_of_record {i : UInt8} {size : UInt32}
    (h : s.records (i.toNat + imgSizeOffset) = some (le32Bytes size)) :
    s.recordedSize i = size.toNat := by
  have hread : sysGetLe32 (Mem.ofBytes ((le32Bytes size).take 4) fun _ => 0) 0 = size :=
    sysGetLe32_of_bytes rfl
  rw [recordedSize, h, Option.elim_some, hread]

/-- Reading sizes changes nothing. -/
lemma callSem_readImgSize (i : UInt8) (s : RefStore) :
    callSem cfg (.readImgSize i) s = (s.imageSize cfg i, s) := by
  cases hbuild : cfg.build with
  | nvs =>
      rw [ImageStore.imageSize, callSem_readImgSize_nvs hbuild]
  | lfs =>
      rw [ImageStore.imageSize, callSem_readImgSize_lfs hbuild]

lemma imageSize_lfs (hbuild : cfg.build = .lfs) (i : UInt8) : s.imageSize cfg i = s.fileLength i :=
  congrArg Prod.fst (callSem_readImgSize_lfs hbuild i s)

lemma imageSize_nvs (hbuild : cfg.build = .nvs) (i : UInt8) :
    s.imageSize cfg i = s.recordedSize i :=
  congrArg Prod.fst (callSem_readImgSize_nvs hbuild i s)

/-- Sizes in storage depend on the flash alone. -/
lemma imageSize_congr {s t : RefStore} (hfiles : t.files = s.files) (hrecords : t.records = s.records)
    (i : UInt8) : t.imageSize cfg i = s.imageSize cfg i := by
  cases hbuild : cfg.build with
  | nvs => rw [imageSize_nvs hbuild, imageSize_nvs hbuild, recordedSize, recordedSize, hrecords]
  | lfs =>
      rw [imageSize_lfs hbuild, imageSize_lfs hbuild, ImageStore.fileLength, ImageStore.fileLength,
        hfiles]

/-! ## Uploads -/

lemma fileLength_created (i j : UInt8) :
    (s.withFiles (s.created i)).fileLength j = s.fileLength j := by
  simp only [ImageStore.fileLength, created, files_withFiles]
  by_cases hij : imagePath j = imagePath i
  · rw [hij, Function.update_self, Option.getD_some]
  · rw [Function.update_of_ne hij]

/-- An upload to LittleFS. -/
lemma exec_upload_lfs (hbuild : cfg.build = .lfs) (u : Upload cfg) (hclosed : s.files.file = none) :
    let t := ((u.program cfg).exec (callSem cfg) s).2
    t.files.file = none
      ∧ t.storedImageSize = Function.update s.storedImageSize u.imgIdx.toNat
          (UInt32.ofNat u.bytes.length)
      ∧ (∀ i ≠ u.imgIdx, t.imageSize cfg i = s.imageSize cfg i)
      ∧ t.imageSize cfg u.imgIdx = max (s.fileLength u.imgIdx) u.bytes.length := by
  have hopen : callSem cfg (.openImage u.imgIdx) s = (0, s.withFiles (s.created u.imgIdx)) := by
    simp only [callSem, impl, hbuild]
    exact exec_lfs_openImageFromStorage hclosed
  have hready : (s.withFiles (s.created u.imgIdx)).files.ReadyFor (imagePath u.imgIdx) := .inr rfl
  obtain ⟨hwritten, hsize⟩ := exec_transfer_lfs hbuild u.chunks_ne 0 hready
  simp only [Upload.program, otsObjSelected, Program.bind_eq_bind, Program.exec_bind,
    Program.exec_perform, hopen, Program.pure_eq_done, Program.exec_done, imageSize_lfs hbuild]
  rw [Nat.zero_add] at hwritten hsize
  refine ⟨hwritten.closed, hsize, fun i hi => ?_, ?_⟩
  · have hsame := congrArg (fun c => (Option.getD c []).length) (hwritten.contents i hi)
    exact hsame.trans (fileLength_created u.imgIdx i)
  · exact hwritten.length.trans (by rw [fileLength_created]; rfl)

/-- An upload to ZMS. -/
lemma exec_upload_nvs (hbuild : cfg.build = .nvs) (u : Upload cfg) :
    let t := ((u.program cfg).exec (callSem cfg) s).2
    t.storedImageSize = Function.update s.storedImageSize u.imgIdx.toNat
          (UInt32.ofNat u.bytes.length)
      ∧ (∀ i ≠ u.imgIdx, t.imageSize cfg i = s.imageSize cfg i)
      ∧ t.imageSize cfg u.imgIdx = u.bytes.length := by
  have hopen : callSem cfg (.openImage u.imgIdx) s = (0, s) := by
    simp only [callSem, impl, hbuild]
    rfl
  obtain ⟨hkept, hrecord, hsize⟩ := exec_transfer_nvs hbuild s u.imgIdx u.chunks_ne 0
  simp only [Upload.program, otsObjSelected, Program.bind_eq_bind, Program.exec_bind,
    Program.exec_perform, hopen, Program.pure_eq_done, Program.exec_done, imageSize_nvs hbuild]
  rw [Nat.zero_add] at hrecord hsize
  refine ⟨hsize, fun i hi => ?_, ?_⟩
  · have hne : i.toNat ≠ u.imgIdx.toNat := fun h => hi (UInt8.toNat_inj.mp h)
    have hlt := u.imgIdx.toNat_lt
    have hid : i.toNat + imgSizeOffset ≠ u.imgIdx.toNat := by
      rw [imgSizeOffset]
      omega
    rw [recordedSize, hkept.records _ hid (by omega)]
    rfl
  · rw [recordedSize_of_record hrecord, UInt32.toNat_ofNat']
    exact Nat.mod_eq_of_lt (Nat.lt_trans u.length_lt (by decide))

/-! ## Factory resets -/

lemma exec_fsUnlink (p : Path) (s : RefStore) :
    ((Lfs.fsUnlink p).exec (flashSem cfg) s).2
      = s.withFiles ⟨Function.update s.files.contents p none, s.files.file⟩ := by
  show s.withFiles (FileSystem.ref (.unlink p) s.files).2 = _
  cases hfile : s.files.contents p with
  | none =>
      simp only [FileSystem.ref, hfile]
      rw [← hfile, Function.update_eq_self]
  | some c => simp only [FileSystem.ref, hfile]

variable (cfg) in
/-- All files of images are gone. -/
lemma exec_deleteImgs_lfs (n : ℕ) (s : RefStore) :
    let t := ((Program.forIdx (fun idx => do
      let _ ← Lfs.fsUnlink (imagePath (UInt8.ofNat idx))) n).exec (flashSem cfg) s).2
    t.files.file = s.files.file ∧ ∀ i : UInt8, i.toNat < n → t.files.contents (imagePath i) = none := by
  induction n with
  | zero => exact ⟨rfl, fun i hi => absurd hi (Nat.not_lt_zero _)⟩
  | succ n ih =>
      obtain ⟨hfile, hnone⟩ := ih
      simp only [Program.forIdx, Program.bind_eq_bind, Program.exec_bind, exec_fsUnlink,
        Program.pure_eq_done, Program.exec_done, files_withFiles] at hfile hnone ⊢
      refine ⟨hfile, fun i hi => ?_⟩
      rw [Function.update_apply]
      split
      · rfl
      · rename_i hp
        refine hnone i (Nat.lt_of_le_of_ne (Nat.le_of_lt_succ hi) ?_)
        rintro rfl
        exact hp (by rw [UInt8.ofNat_toNat])

variable (cfg) in
/-- All size records are gone. -/
lemma exec_deleteFrom (n idx : ℕ) (s : RefStore) :
    let t := ((Nvs.deleteFrom idx n).exec (flashSem cfg) s).2
    (∀ id, s.records id = none → t.records id = none)
      ∧ ∀ k, idx ≤ k → k < idx + n → t.records (k + imgSizeOffset) = none := by
  induction n generalizing idx s with
  | zero => exact ⟨fun _ h => h, fun k hk hk' => absurd hk' (Nat.not_lt.mpr hk)⟩
  | succ n ih =>
      obtain ⟨hkeep, hnone⟩ := ih (idx + 1) (s.withRecords (Function.update
        (Function.update s.records idx none) (idx + imgSizeOffset) none))
      have hexec : ((Nvs.deleteFrom idx (n + 1)).exec (flashSem cfg) s).2
          = ((Nvs.deleteFrom (idx + 1) n).exec (flashSem cfg) (s.withRecords (Function.update
              (Function.update s.records idx none) (idx + imgSizeOffset) none))).2 := rfl
      simp only [hexec]
      refine ⟨fun id hid => hkeep id ?_, fun k hk hk' => ?_⟩
      · simp only [records_withRecords, Function.update_apply]
        split
        · rfl
        · split
          · rfl
          · exact hid
      · by_cases hfirst : k = idx
        · subst hfirst
          refine hkeep _ ?_
          rw [records_withRecords, Function.update_self]
        · exact hnone k (by omega) (by omega)

variable (cfg) in
/-- The sizes in RAM are cleared. -/
lemma exec_clearSizes (n : ℕ) (hn : n ≤ 256) (s : RefStore) :
    let t := ((Program.forIdx (fun idx =>
      imageCall (.ram (.setStoredImageSize (UInt8.ofNat idx) 0))) n).exec (callSem cfg) s).2
    t.files = s.files ∧ t.records = s.records ∧ ∀ k < n, t.storedImageSize k = 0 := by
  induction n with
  | zero => exact ⟨rfl, rfl, fun k hk => absurd hk (Nat.not_lt_zero _)⟩
  | succ n ih =>
      obtain ⟨hfiles, hrecords, hzero⟩ := ih (by omega)
      have hidx : (UInt8.ofNat n).toNat = n := by
        rw [UInt8.toNat_ofNat']
        omega
      simp only [Program.forIdx, Program.exec_bind]
      refine ⟨hfiles, hrecords, fun k hk => ?_⟩
      show Function.update _ (UInt8.ofNat n).toNat 0 k = 0
      rw [hidx, Function.update_apply]
      split
      · rfl
      · exact hzero k (by omega)

variable (cfg) in
/-- After the deletion no image has a size. -/
lemma exec_deleteImgs (s : RefStore) :
    let t := (callSem cfg .deleteImgs s).2
    (cfg.build = .lfs → t.files.file = s.files.file)
      ∧ ∀ i : UInt8, i.toNat < cfg.imageMax → t.imageSize cfg i = 0 := by
  cases hbuild : cfg.build with
  | nvs =>
      have hdelete := (exec_deleteFrom cfg cfg.imageMax 0 s).2
      refine ⟨(nomatch ·), fun i hi => ?_⟩
      simp only [callSem, impl, hbuild, imageSize_nvs hbuild, recordedSize,
        Nvs.deleteImgsFromStorage]
      rw [hdelete i.toNat (Nat.zero_le _) (by omega)]
      rfl
  | lfs =>
      obtain ⟨hfile, hnone⟩ := exec_deleteImgs_lfs cfg cfg.imageMax s
      have hexec : (callSem cfg .deleteImgs s).2 = ((Program.forIdx (fun idx => do
          let _ ← Lfs.fsUnlink (imagePath (UInt8.ofNat idx))) cfg.imageMax).exec
            (flashSem cfg) s).2 := by
        simp only [callSem, impl, hbuild, Lfs.deleteImgsFromStorage, Program.bind_eq_bind,
          Program.exec_bind, Program.pure_eq_done, Program.exec_done]
      simp only [hexec, imageSize_lfs hbuild]
      refine ⟨fun _ => hfile, fun i hi => ?_⟩
      rw [ImageStore.fileLength]
      exact congrArg (fun c => (Option.getD c []).length) (hnone i hi)

variable (cfg) in
/-- **A factory reset**: no image has a size. -/
lemma exec_factoryReset (s : RefStore) :
    let t := ((ImageProgram.btEslDeleteImages cfg).exec (callSem cfg) s).2
    (cfg.build = .lfs → t.files.file = s.files.file)
      ∧ ∀ i : UInt8, i.toNat < cfg.imageMax → t.imageSize cfg i = 0 ∧ t.storedImageSize i.toNat = 0 := by
  obtain ⟨hfile, hsize⟩ := exec_deleteImgs cfg s
  have hmax := cfg.imageMax_le
  obtain ⟨hfiles, hrecords, hzero⟩ :=
    exec_clearSizes cfg cfg.imageMax (by omega) (callSem cfg .deleteImgs s).2
  simp only [ImageProgram.btEslDeleteImages, Program.bind_eq_bind, Program.exec_bind,
    Program.exec_perform]
  refine ⟨fun hbuild => ?_, fun i hi => ⟨?_, hzero _ hi⟩⟩
  · rw [hfiles]
    exact hfile hbuild
  · exact (imageSize_congr hfiles hrecords i).trans (hsize i hi)

/-! ## Reboots -/

variable (cfg) in
/-- One turn of the loop of `ots_storage_init`: a file that is missing is created. -/
lemma exec_createMissing (imgIdx : UInt8) (s : RefStore) (hclosed : s.files.file = none) :
    let t := ((do
      let (rc, _) ← Lfs.fsStat (imagePath imgIdx)
      if rc = FileSystem.enoent then
        let _ ← Lfs.fsOpen (imagePath imgIdx)
      let _ ← Lfs.fsClose : FlashProgram Unit).exec (flashSem cfg) s).2
    t.files.file = none ∧ ∀ i, t.fileLength i = s.fileLength i := by
  cases hfile : s.files.contents (imagePath imgIdx) with
  | none =>
      simp only [Program.bind_eq_bind, Program.exec_bind, exec_fsStat, hfile, Option.elim_none,
        if_true, exec_fsOpen hclosed]
      refine ⟨rfl, fun i => ?_⟩
      have hlength := fileLength_created (s := s) imgIdx i
      rw [created, hfile] at hlength
      exact hlength
  | some c =>
      have henoent : ¬ (0 : Int) = FileSystem.enoent := by decide
      simp only [Program.bind_eq_bind, Program.exec_bind, exec_fsStat, hfile, Option.elim_some,
        if_neg henoent]
      exact ⟨rfl, fun _ => rfl⟩

variable (cfg) in
/-- `ots_storage_init` leaves every length as it is. -/
lemma exec_otsStorageInit (n : ℕ) (s : RefStore) :
    let t := ((Lfs.otsStorageInit n).exec (flashSem cfg) s).2
    t.files.file = none ∧ ∀ i, t.fileLength i = s.fileLength i := by
  have hmount : Lfs.fsMount.exec (flashSem cfg) s = (0, s.withFiles ⟨s.files.contents, none⟩) := rfl
  have hzero : ¬ (0 : Int) < 0 := by decide
  simp only [Lfs.otsStorageInit, Program.bind_eq_bind, Program.exec_bind, hmount, if_neg hzero]
  induction n with
  | zero => exact ⟨rfl, fun _ => rfl⟩
  | succ n ih =>
      obtain ⟨hclosed, hlength⟩ := ih
      obtain ⟨hclosed', hlength'⟩ := exec_createMissing cfg (UInt8.ofNat n) _ hclosed
      rw [Program.forIdx, Program.exec_bind]
      exact ⟨hclosed', fun i => (hlength' i).trans (hlength i)⟩

variable (cfg) in
/-- `image_size_init` takes the sizes from storage. -/
lemma exec_imageSizeInit (n : ℕ) (hn : n ≤ 256) (s : RefStore) :
    let t := ((Program.forIdx (fun idx => do
      let size ← imageCall (.readImgSize (UInt8.ofNat idx))
      imageCall (.ram (.setStoredImageSize (UInt8.ofNat idx) (UInt32.ofNat size))) :
        ℕ → ImageProgram Unit) n).exec (callSem cfg) s).2
    t.files = s.files ∧ t.records = s.records
      ∧ ∀ i : UInt8, i.toNat < n → t.storedImageSize i.toNat = UInt32.ofNat (s.imageSize cfg i) := by
  induction n with
  | zero => exact ⟨rfl, rfl, fun i hi => absurd hi (Nat.not_lt_zero _)⟩
  | succ n ih =>
      obtain ⟨hfiles, hrecords, hsizes⟩ := ih (by omega)
      have hidx : (UInt8.ofNat n).toNat = n := by
        rw [UInt8.toNat_ofNat']
        omega
      rw [Program.forIdx, Program.exec_bind]
      simp only [Program.bind_eq_bind, Program.exec_bind, Program.exec_perform,
        callSem_readImgSize]
      refine ⟨hfiles, hrecords, fun i hi => ?_⟩
      show Function.update _ (UInt8.ofNat n).toNat _ i.toNat = _
      rw [hidx, Function.update_apply]
      split
      · rename_i hlast
        subst hlast
        rw [UInt8.ofNat_toNat]
        exact congrArg UInt32.ofNat (imageSize_congr hfiles hrecords i)
      · exact hsizes i (by omega)

variable (cfg) in
/-- **A reboot** takes the sizes from storage and leaves them there. -/
lemma exec_reboot (s : RefStore) :
    let t := ((imageStorageBoot cfg).exec (flashSem cfg) s.restarted).2
    (cfg.build = .lfs → t.files.file = none)
      ∧ ∀ i : UInt8, i.toNat < cfg.imageMax → t.imageSize cfg i = s.imageSize cfg i
          ∧ t.storedImageSize i.toNat = UInt32.ofNat (s.imageSize cfg i) := by
  have hmax := cfg.imageMax_le
  have hinit : ∀ u : RefStore, ((imageSizeInit cfg).expand (impl cfg)).exec (flashSem cfg) u
      = (imageSizeInit cfg).exec (callSem cfg) u := Program.exec_expand _ _ _
  cases hbuild : cfg.build with
  | nvs =>
      obtain ⟨hfiles, hrecords, hsizes⟩ :=
        exec_imageSizeInit cfg cfg.imageMax (by omega) s.restarted
      have hsize : ∀ i, s.restarted.imageSize cfg i = s.imageSize cfg i := imageSize_congr rfl rfl
      simp only [imageStorageBoot, hbuild, hinit]
      refine ⟨(nomatch ·), fun i hi => ⟨?_, ?_⟩⟩
      · exact (imageSize_congr hfiles hrecords i).trans (hsize i)
      · exact (hsizes i hi).trans (congrArg UInt32.ofNat (hsize i))
  | lfs =>
      obtain ⟨hclosed, hlength⟩ := exec_otsStorageInit cfg cfg.imageMax s.restarted
      obtain ⟨hfiles, hrecords, hsizes⟩ := exec_imageSizeInit cfg cfg.imageMax (by omega)
        ((Lfs.otsStorageInit cfg.imageMax).exec (flashSem cfg) s.restarted).2
      have hsize : ∀ i, ((Lfs.otsStorageInit cfg.imageMax).exec (flashSem cfg) s.restarted).2.imageSize
          cfg i = s.imageSize cfg i := by
        intro i
        rw [imageSize_lfs hbuild, imageSize_lfs hbuild, hlength i]
        rfl
      simp only [imageStorageBoot, hbuild, Program.bind_eq_bind, Program.exec_bind, hinit]
      refine ⟨fun _ => ?_, fun i hi => ⟨?_, ?_⟩⟩
      · exact (congrArg FileSystem.View.file hfiles).trans hclosed
      · exact (imageSize_congr hfiles hrecords i).trans (hsize i)
      · exact (hsizes i hi).trans (congrArg UInt32.ofNat (hsize i))

end RefStore

/-! ## The invariant -/

variable {cfg} {x x' : SizeState (Device.ofRef (FileSystem.interface Path))
  (Device.ofRef (RecordStore.interface ℕ))} {e : SizeEvent cfg}

lemma settled_upload (hx : Settled cfg x) (u : Upload cfg) (hlong : NotShorter cfg x (.upload u)) :
    Settled cfg (((u.program cfg).exec (callSem cfg) x.1).2,
      Function.update x.2 u.imgIdx.toNat u.bytes.length) := by
  have hn : (UInt32.ofNat u.bytes.length).toNat = u.bytes.length := by
    rw [UInt32.toNat_ofNat']
    exact Nat.mod_eq_of_lt (Nat.lt_trans u.length_lt (by decide))
  have hcommon : ∀ t : RefStore,
      t.storedImageSize = Function.update x.1.storedImageSize u.imgIdx.toNat
        (UInt32.ofNat u.bytes.length) →
      (∀ i ≠ u.imgIdx, t.imageSize cfg i = x.1.imageSize cfg i) →
      t.imageSize cfg u.imgIdx = u.bytes.length →
      SizesAgree cfg (t, Function.update x.2 u.imgIdx.toNat u.bytes.length) := by
    intro t hstored hothers hown i hi
    by_cases hiu : i = u.imgIdx
    · subst hiu
      simp only [hstored, Function.update_self, hn, hown, and_self]
    · have hne : i.toNat ≠ u.imgIdx.toNat := fun h => hiu (UInt8.toNat_inj.mp h)
      simp only [hstored, Function.update_of_ne hne, hothers i hiu]
      exact hx.agree i hi
  cases hbuild : cfg.build with
  | nvs =>
      obtain ⟨hstored, hothers, hown⟩ := RefStore.exec_upload_nvs (s := x.1) hbuild u
      exact ⟨hcommon _ hstored hothers hown, fun h => nomatch hbuild.symm.trans h⟩
  | lfs =>
      obtain ⟨hclosed, hstored, hothers, hown⟩ :=
        RefStore.exec_upload_lfs hbuild u (hx.closed hbuild)
      refine ⟨hcommon _ hstored hothers (hown.trans ?_), fun _ => hclosed⟩
      exact Nat.max_eq_right (hlong hbuild)

/-- **The step lemma.** -/
lemma settled_step : PreservedUnder (withHistory (lastUpload cfg) (sizeStep cfg)) (NotShorter cfg)
    (Settled cfg (F := Device.ofRef (FileSystem.interface Path))
      (Z := Device.ofRef (RecordStore.interface ℕ))) := by
  intro x e x' hx hguard hstep
  obtain ⟨hs, hlast⟩ := withHistory_eq_some.mp hstep
  obtain ⟨t, last⟩ := x'
  dsimp only at hs hlast
  subst hlast
  cases e with
  | upload u =>
      cases hs
      exact settled_upload hx u hguard
  | factoryReset =>
      cases hs
      obtain ⟨hfile, hsizes⟩ := RefStore.exec_factoryReset cfg x.1
      refine ⟨fun i hi => ?_, fun hbuild => (hfile hbuild).trans (hx.closed hbuild)⟩
      obtain ⟨hsize, hstored⟩ := hsizes i hi
      exact ⟨by rw [hstored, hsize]; rfl, hsize⟩
  | reboot =>
      cases hs
      obtain ⟨hclosed, hsizes⟩ := RefStore.exec_reboot cfg x.1
      refine ⟨fun i hi => ?_, hclosed⟩
      obtain ⟨hsize, hstored⟩ := hsizes i hi
      obtain ⟨hagree, hlast⟩ := hx.agree i hi
      refine ⟨?_, hsize.trans hlast⟩
      rw [hstored, hsize, ← hagree, UInt32.ofNat_toNat]

/-- An upload that is shorter than the file it replaces breaks the agreement. -/
lemma notShorter_of_agree (hx : Settled cfg x)
    (hstep : withHistory (lastUpload cfg) (sizeStep cfg) x e = some x') (h : SizesAgree cfg x') :
    NotShorter cfg x e := by
  obtain ⟨hs, hlast⟩ := withHistory_eq_some.mp hstep
  cases e with
  | upload u =>
      intro hbuild
      have hown := (RefStore.exec_upload_lfs hbuild u (hx.closed hbuild)).2.2.2
      have hagree := (h u.imgIdx u.imgIdx_lt).2
      simp only [lastUpload] at hlast
      rw [hlast, Function.update_self, ← Option.some.inj hs] at hagree
      rw [hagree] at hown
      exact hown ▸ Nat.le_max_left _ _
  | factoryReset => trivial
  | reboot => trivial

end Reference

/-! ## Whole runs -/

section Observed

variable {cfg} (hF : F.Reliable) (hZ : Z.Reliable)

/-- What is observed of a state. -/
def observedState (x : SizeState F Z) : SizeState (Device.ofRef (FileSystem.interface Path))
    (Device.ofRef (RecordStore.interface ℕ)) := (x.1.observed, x.2)

include hF hZ

lemma imageSize_observed (s : ImageStore F Z) (i : UInt8) :
    s.observed.imageSize cfg i = s.imageSize cfg i :=
  congrArg Prod.fst (exec_observed hF hZ s (impl cfg (.readImgSize i)))

lemma sizeStep_observed (s : ImageStore F Z) (e : SizeEvent cfg) :
    sizeStep cfg s.observed e = (sizeStep cfg s e).map ImageStore.observed := by
  cases e with
  | upload u => exact congrArg (fun y => some y.2) (exec_callSem_observed hF hZ s (u.program cfg))
  | factoryReset =>
      exact congrArg (fun y => some y.2)
        (exec_callSem_observed hF hZ s (ImageProgram.btEslDeleteImages cfg))
  | reboot =>
      exact congrArg (fun y => some y.2) (exec_observed hF hZ s.restarted (imageStorageBoot cfg))

lemma withHistory_observed (x : SizeState F Z) (e : SizeEvent cfg) :
    withHistory (lastUpload cfg) (sizeStep cfg) (observedState x) e
      = (withHistory (lastUpload cfg) (sizeStep cfg) x e).map observedState := by
  simp only [withHistory, observedState, sizeStep_observed hF hZ, Option.map_map]
  rfl

lemma sizesAgree_observed (x : SizeState F Z) :
    SizesAgree cfg (observedState x) ↔ SizesAgree cfg x := by
  simp only [SizesAgree, observedState, imageSize_observed hF hZ]
  rfl

end Observed

/-- **Size agreement.**  It holds in every state of a run exactly when, in a build with LittleFS, no
upload is shorter than the file it replaces. -/
theorem sizesAgree_iff (hF : F.Reliable) (hZ : Z.Reliable) {x : SizeState F Z} (hx : Settled cfg x)
    (events : List (SizeEvent cfg)) :
    AlongRun (withHistory (lastUpload cfg) (sizeStep cfg)) (SizesAgree cfg) x events ↔
      StepsMeet (withHistory (lastUpload cfg) (sizeStep cfg)) (NotShorter cfg) x events := by
  have hsettled : Settled cfg (observedState x) :=
    ⟨(sizesAgree_observed hF hZ x).mpr hx.agree, hx.closed⟩
  have hrun : AlongRun _ (SizesAgree cfg) (observedState x) events ↔
      StepsMeet _ (NotShorter cfg) (observedState x) events :=
    alongRun_iff_stepsMeet (fun _ hy => hy.agree) settled_step
      (fun _ _ _ hy he hagree => notShorter_of_agree hy he hagree) hsettled
  rw [alongRun_map (withHistory_observed hF hZ), stepsMeet_map (withHistory_observed hF hZ)] at hrun
  simp only [sizesAgree_observed hF hZ] at hrun
  exact hrun

/-- A tag as it leaves the factory. -/
def newTag : SizeState (Device.ofRef (FileSystem.interface Path))
    (Device.ofRef (RecordStore.interface ℕ)) :=
  ({ volume := ⟨fun _ => none, none⟩
     zms := fun _ => none
     imgObjBuf := fun _ => 0
     storedImageSize := fun _ => 0
     panel := [] }, fun _ => 0)

/-- It has no images, and no sizes. -/
lemma settled_newTag : Settled cfg newTag := by
  refine ⟨fun i _ => ?_, fun _ => rfl⟩
  have hsize : newTag.1.imageSize cfg i = 0 := by
    cases hbuild : cfg.build with
    | nvs => exact RefStore.imageSize_nvs hbuild i
    | lfs => exact RefStore.imageSize_lfs hbuild i
  rw [hsize]
  exact ⟨rfl, rfl⟩

/-- An upload of some bytes for image 0, in one chunk. -/
def uploadOf (bytes : List UInt8) (h : bytes.length < 2 ^ 31) : Upload lfsSample where
  imgIdx := 0
  chunks := [bytes]
  imgIdx_lt := by decide
  chunks_ne := List.cons_ne_nil _ _
  length_lt := by simpa using h

/-- Two bytes, three bytes, a reboot and a factory reset. -/
theorem sizesAgree_longer :
    AlongRun (withHistory (lastUpload lfsSample) (sizeStep lfsSample)) (SizesAgree lfsSample) newTag
      [.upload (uploadOf [1, 2] (by decide)), .upload (uploadOf [1, 2, 3] (by decide)), .reboot,
        .factoryReset] := by
  refine (sizesAgree_iff lfsSample (Device.ofRef_reliable _) (Device.ofRef_reliable _)
    (settled_newTag lfsSample) _).mpr fun x h => ⟨fun _ => Nat.zero_le _, fun y hy => ⟨?_, ?_⟩⟩
  · cases h
    intro _
    decide +kernel
  · exact fun _ _ => ⟨trivial, fun _ _ => ⟨trivial, trivial⟩⟩

/-- Two bytes, then one: `fs_stat` still finds two. -/
theorem not_sizesAgree :
    ¬ AlongRun (withHistory (lastUpload lfsSample) (sizeStep lfsSample)) (SizesAgree lfsSample) newTag
      [.upload (uploadOf [1, 2] (by decide)), .upload (uploadOf [3] (by decide))] := by
  intro h
  have hsize := (((h.2 _ rfl).2 _ rfl).head 0 (by decide)).2
  revert hsize
  decide +kernel

end NrfEsl
