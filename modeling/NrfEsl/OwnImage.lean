import NrfEsl.Lib.TransitionSystem
import NrfEsl.Tag.ImageReference

/-!
# Every image in its own file

All operations on images of a LittleFS build share one file object.  It is opened lazily, by the
first call that finds it closed, and some functions leave it open.  A call on an image then acts on
whatever file was opened last.

`OwnImage` is what a call on image `i` is for: a write changes no file but that of `i`, a read fills
the buffer with bytes of `i` only.  The file object is **ready** for `i` when it is closed or open
for `i` (`View.ReadyFor`); from such a state `OwnImage` holds and readiness is kept, whichever calls
of the file system fail.

**When it holds** (`image_calls_own`).  Selecting an object opens its file unconditionally, and so do
the display drivers of the shields.  Every other operation has to find the object ready.
-/

namespace NrfEsl

open TransitionSystem

variable (cfg : ImageConfig) {F : Device (FileSystem.interface Path)}
  {Z : Device (RecordStore.interface ℕ)}

/-! ## Operations -/

variable (d : DisplayDriver)

/-- One operation after the other. -/
def imageStep (s : ImageStore F Z) (op : ImageOp) : Option (ImageStore F Z) :=
  some ((op.program cfg d).exec (callSem cfg) s).2

/-- A write changes no other file, and a read fills the buffer from no other file. -/
def OwnImage (c : ImageCall) (s : ImageStore F Z) : Prop :=
  let s' := (callSem cfg c s).2
  match c with
  | .writeImg imgIdx _ _ =>
      ∀ p ≠ imagePath imgIdx, s'.files.contents p = s.files.contents p
  | .readImg imgIdx _ _ =>
      ∃ pos n, s'.imgObjBuf = s.imgObjBuf.write 0
        ((((s'.files.contents (imagePath imgIdx)).getD []).drop pos).take n)
  | _ => True

/-- The file object is closed or open for the image. -/
def ImageStore.Ready (s : ImageStore F Z) (imgIdx : UInt8) : Prop :=
  s.files.ReadyFor (imagePath imgIdx)

/-- An operation that needs the file object finds it ready. -/
def ImageOp.FindsReady (s : ImageStore F Z) : ImageOp → Prop
  | .select _ | .close => True
  | .write imgIdx _ _ _ => s.Ready imgIdx
  | .read imgIdx data _ _ => data = true → s.Ready imgIdx
  | .checksum imgIdx _ _ => imgIdx.toNat ≤ cfg.imageMax → s.Ready imgIdx
  | .display r => d.opensImage = false → s.Ready r.imgIdx

/-! ## The calls of the file system -/

section Calls

variable {cfg} {s : ImageStore F Z}

/-- The actions that open no other path and delete nothing. -/
def OnlyPath (p : Path) : FlashCall → Prop
  | .file (.openFile q) => q = p
  | .file (.unlink _) => False
  | _ => True

lemma allowed_fileCall (c : FileSystem.Call Path) (s : ImageStore F Z) :
    (FileSystem.interface Path).Allowed c s.files (s.fileCall c).1 (s.fileCall c).2.files :=
  F.allowed c s.volume

/-- Closed or open for `p`, with the other files as they were. -/
def KeepsOthers (p : Path) (before s : ImageStore F Z) : Prop :=
  s.files.ReadyFor p ∧ ∀ q ≠ p, s.files.contents q = before.files.contents q

lemma KeepsOthers.fileCall {p : Path} {before : ImageStore F Z} {c : FileSystem.Call Path}
    (h : KeepsOthers p before s) (hopen : ∀ q, c = .openFile q → q = p)
    (hunlink : ∀ q, c ≠ .unlink q) : KeepsOthers p before (s.fileCall c).2 := by
  have hallowed := allowed_fileCall c s
  refine ⟨FileSystem.readyFor_of_allowed hallowed h.1 hopen, fun q hq => ?_⟩
  have htarget : FileSystem.target c s.files ≠ some q := by
    intro ht
    cases c with
    | openFile q' => exact hq ((Option.some.inj ht) ▸ hopen q' rfl)
    | unlink q' => exact hunlink q' rfl
    | close | sync | write _ => exact hq (h.1.path_eq ht)
    | _ => cases ht
  rw [FileSystem.contents_of_allowed hallowed htarget]
  exact h.2 q hq

lemma KeepsOthers.flashSem {p : Path} {before : ImageStore F Z} {c : FlashCall}
    (hc : OnlyPath p c) (h : KeepsOthers p before s) :
    KeepsOthers p before (flashSem cfg c s).2 := by
  cases c with
  | ram c => cases c <;> exact h
  | file c =>
      refine h.fileCall ?_ ?_
      · rintro q rfl
        exact hc
      · rintro q rfl
        exact hc
  | fsWrite len => exact h.fileCall (by rintro _ ⟨⟩) (by rintro _ ⟨⟩)
  | fsRead len => exact h.fileCall (by rintro _ ⟨⟩) (by rintro _ ⟨⟩)
  | record c => exact h
  | zmsWrite id len => exact h
  | zmsRead id len => exact h

end Calls

/-! ## The callbacks -/

section Callbacks

variable {cfg} {s : ImageStore F Z} {imgIdx : UInt8}

lemma Lfs.uses_openImageFromStorage :
    (Lfs.openImageFromStorage imgIdx).Uses (OnlyPath (imagePath imgIdx)) := by
  refine ⟨trivial, fun opened => ?_⟩
  cases opened with
  | true => exact ⟨trivial, fun _ => ⟨trivial, fun _ => ⟨rfl, fun _ => trivial⟩⟩⟩
  | false => exact ⟨trivial, fun _ => ⟨rfl, fun _ => trivial⟩⟩

lemma Lfs.uses_openIfClosed : (Lfs.openIfClosed imgIdx).Uses (OnlyPath (imagePath imgIdx)) := by
  refine ⟨trivial, fun opened => ?_⟩
  cases opened with
  | true => trivial
  | false => exact Lfs.uses_openImageFromStorage.bind fun _ => trivial

lemma Lfs.uses_closeImageFromStorage {p : Path} : Lfs.closeImageFromStorage.Uses (OnlyPath p) := by
  refine ⟨trivial, fun opened => ?_⟩
  cases opened with
  | true => exact ⟨trivial, fun _ => ⟨trivial, fun _ => trivial⟩⟩
  | false => trivial

lemma Lfs.uses_writeImgToStorage {len : ℕ} {off : Int} :
    (Lfs.writeImgToStorage imgIdx len off).Uses (OnlyPath (imagePath imgIdx)) := by
  refine Lfs.uses_openIfClosed.bind fun _ => ⟨trivial, fun rc => ?_⟩
  exact Program.Uses.ite trivial ⟨trivial, fun _ => trivial⟩

lemma Lfs.uses_readImgFromStorage {len : ℕ} {off : Int} :
    (Lfs.readImgFromStorage imgIdx len off).Uses (OnlyPath (imagePath imgIdx)) := by
  refine Lfs.uses_openIfClosed.bind fun _ => ⟨trivial, fun rc => ?_⟩
  exact Program.Uses.ite trivial ⟨trivial, fun _ => trivial⟩

/-- A program of such actions keeps the object ready and the other files. -/
lemma exec_keepsOthers {α : Type} {prog : FlashProgram α} {p : Path}
    (h : prog.Uses (OnlyPath p)) (hs : s.files.ReadyFor p) :
    KeepsOthers p s (prog.exec (flashSem cfg) s).2 :=
  Program.exec_of_uses h (fun _ _ hc ht => ht.flashSem hc) ⟨hs, fun _ _ => rfl⟩

/-- After `fs_file_t_init` nothing is open. -/
lemma file_fileInit (s : ImageStore F Z) : (s.fileCall .fileInit).2.files.file = none := by
  rcases allowed_fileCall .fileInit s with href | hfailed
  · have hview : _ = (s.fileCall .fileInit).2.files := congrArg Prod.snd href
    rw [← hview]
    rfl
  · exact absurd rfl hfailed.fileInit

/-- **Opening an image makes the object ready for it**, whatever was open before. -/
lemma ready_openImage (hbuild : cfg.build = .lfs) :
    (callSem cfg (.openImage imgIdx) s).2.Ready imgIdx := by
  have hfresh : ∀ t : ImageStore F Z,
      (((t.fileCall .fileInit).2.fileCall (.openFile (imagePath imgIdx))).2).Ready imgIdx := by
    intro t
    refine FileSystem.readyFor_of_allowed (allowed_fileCall _ _) (.inl (file_fileInit t)) ?_
    rintro q ⟨⟩
    rfl
  simp only [callSem, impl, hbuild]
  show (Program.exec _ (Program.act _ fun opened => _) s).2.Ready imgIdx
  rw [Program.exec_act]
  cases (flashSem cfg (.file .isOpen) s).1 with
  | true => exact hfresh _
  | false => exact hfresh _

/-- Opening a file does not touch the buffer. -/
lemma imgObjBuf_openIfClosed :
    ((Lfs.openIfClosed imgIdx).exec (flashSem cfg) s).2.imgObjBuf = s.imgObjBuf := by
  have hfile : (Lfs.openIfClosed imgIdx).Uses fun c => ∃ c', c = .file c' := by
    refine ⟨⟨_, rfl⟩, fun opened => ?_⟩
    cases opened with
    | true => trivial
    | false =>
        refine ⟨⟨_, rfl⟩, fun opened => ?_⟩
        cases opened with
        | true => exact ⟨⟨_, rfl⟩, fun _ => ⟨⟨_, rfl⟩, fun _ => ⟨⟨_, rfl⟩, fun _ => trivial⟩⟩⟩
        | false => exact ⟨⟨_, rfl⟩, fun _ => ⟨⟨_, rfl⟩, fun _ => trivial⟩⟩
  refine Program.exec_of_uses (I := fun t : ImageStore F Z => t.imgObjBuf = s.imgObjBuf) hfile ?_ rfl
  rintro c t ⟨c', rfl⟩ ht
  exact ht

variable (cfg) in
/-- Bytes that `fs_read` puts into the buffer are bytes of the file that is open. -/
lemma ownImage_fsRead {p : Path} {len : ℕ} (hs : s.files.ReadyFor p) :
    let s' := (flashSem cfg (.fsRead len) s).2
    ∃ pos n, s'.imgObjBuf
      = s.imgObjBuf.write 0 ((((s'.files.contents p).getD []).drop pos).take n) := by
  have hallowed := allowed_fileCall (.read len) s
  obtain ⟨pos, n, hbytes⟩ := FileSystem.delivered_of_allowed hallowed hs
  have hsame := FileSystem.contents_of_allowed (p := p) hallowed (by rintro ⟨⟩)
  refine ⟨pos, n, ?_⟩
  show s.imgObjBuf.write 0 _ = s.imgObjBuf.write 0 _
  congr 1
  rw [← hsame] at hbytes
  exact hbytes

/-- `read_img_from_storage` on a ready object. -/
lemma ownImage_readImg (hbuild : cfg.build = .lfs) {len : ℕ} {off : Int} (hs : s.Ready imgIdx) :
    OwnImage cfg (.readImg imgIdx len off) s := by
  have hopen : KeepsOthers (imagePath imgIdx) s
      ((Lfs.openIfClosed imgIdx).exec (flashSem cfg) s).2 :=
    exec_keepsOthers Lfs.uses_openIfClosed hs
  have hbuf : ((Lfs.openIfClosed imgIdx).exec (flashSem cfg) s).2.imgObjBuf = s.imgObjBuf :=
    imgObjBuf_openIfClosed
  simp only [OwnImage, callSem, impl, hbuild, Lfs.readImgFromStorage, Program.bind_eq_bind,
    Program.exec_bind]
  generalize ((Lfs.openIfClosed imgIdx).exec (flashSem cfg) s).2 = t at hopen hbuf ⊢
  have hseek := hopen.fileCall (c := .seek off) (by rintro _ ⟨⟩) (by rintro _ ⟨⟩)
  split
  · exact ⟨0, 0, by rw [List.take_zero]; exact hbuf.trans (Mem.write_nil _ _).symm⟩
  · rw [← hbuf]
    exact ownImage_fsRead cfg hseek.1

/-- `write_img_to_storage` on a ready object. -/
lemma ownImage_writeImg (hbuild : cfg.build = .lfs) {len : ℕ} {off : Int} (hs : s.Ready imgIdx) :
    OwnImage cfg (.writeImg imgIdx len off) s := by
  simp only [OwnImage, callSem, impl, hbuild]
  exact (exec_keepsOthers Lfs.uses_writeImgToStorage hs).2

/-! ## Operations on one image -/

/-- The calls that belong to one image. -/
def OnImage (imgIdx : UInt8) : ImageCall → Prop
  | .openImage i | .writeImg i _ _ | .readImg i _ _ => i = imgIdx
  | .deleteImgs => False
  | .ram _ | .closeImage | .readImgSize _ => True

/-- **The step lemma.**  From a ready object a call on the image does what it is for, and leaves the
object ready. -/
lemma ownImage_ready (hbuild : cfg.build = .lfs) (c : ImageCall) (s : ImageStore F Z)
    (hc : OnImage imgIdx c) (hs : s.Ready imgIdx) :
    OwnImage cfg c s ∧ (callSem cfg c s).2.Ready imgIdx := by
  cases c with
  | ram c =>
      refine ⟨trivial, ?_⟩
      cases c <;> exact hs
  | openImage i =>
      cases hc
      exact ⟨trivial, ready_openImage hbuild⟩
  | closeImage =>
      refine ⟨trivial, ?_⟩
      simp only [callSem, impl, hbuild]
      exact (exec_keepsOthers Lfs.uses_closeImageFromStorage hs).1
  | writeImg i len off =>
      cases hc
      refine ⟨ownImage_writeImg hbuild hs, ?_⟩
      simp only [callSem, impl, hbuild]
      exact (exec_keepsOthers Lfs.uses_writeImgToStorage hs).1
  | readImg i len off =>
      cases hc
      refine ⟨ownImage_readImg hbuild hs, ?_⟩
      simp only [callSem, impl, hbuild]
      exact (exec_keepsOthers Lfs.uses_readImgFromStorage hs).1
  | readImgSize i =>
      have huses : (Lfs.readImgSizeFromStorage i).Uses (OnlyPath (imagePath imgIdx)) :=
        ⟨trivial, fun _ => trivial⟩
      refine ⟨trivial, ?_⟩
      simp only [callSem, impl, hbuild]
      exact (exec_keepsOthers huses hs).1
  | deleteImgs => cases hc

/-- Programs of such calls, from a ready object. -/
lemma along_ownImage {α : Type} (hbuild : cfg.build = .lfs) {prog : ImageProgram α}
    (hprog : prog.Uses (OnImage imgIdx)) (hs : s.Ready imgIdx) :
    prog.Along (callSem cfg) (OwnImage cfg) s :=
  Program.along_of_uses (I := fun t : ImageStore F Z => t.Ready imgIdx) hprog
    (ownImage_ready hbuild) hs

variable {d : DisplayDriver} {r : DisplayRun}

/-- Calls on the image itself belong to it. -/
lemma onImage_callsOn (imgIdx : UInt8) : CallsOn (OnImage imgIdx) imgIdx :=
  ⟨fun _ => trivial, trivial, fun _ _ => rfl⟩

/-- A display run: the drivers that open the file themselves need nothing. -/
lemma along_displayControl (hbuild : cfg.build = .lfs)
    (hs : d.opensImage = false → s.Ready r.imgIdx) :
    (displayControl cfg d r).Along (callSem cfg) (OwnImage cfg) s := by
  refine ⟨trivial, trivial, ?_⟩
  have hsize : ∀ t : ImageStore F Z, t.Ready r.imgIdx →
      (callSem cfg (.readImgSize r.imgIdx) (callSem cfg (.ram .memset) t).2).2.Ready r.imgIdx :=
    fun t ht => (ownImage_ready hbuild (.readImgSize r.imgIdx) _ trivial
      (ownImage_ready hbuild (.ram .memset) t trivial ht).2).2
  show Program.Along _ _ (if d.opensImage = true then _ else _) _
  split
  · exact ⟨trivial, along_ownImage hbuild (uses_displayFile (onImage_callsOn _)) (ready_openImage hbuild)⟩
  · rename_i hopens
    exact along_ownImage hbuild (uses_displayFile (onImage_callsOn _))
      (hsize s (hs (Bool.eq_false_iff.mpr hopens)))

/-- **Every operation that finds the object ready** acts on its own image. -/
lemma along_program (hbuild : cfg.build = .lfs) (op : ImageOp) (hs : op.FindsReady cfg d s) :
    (op.program cfg d).Along (callSem cfg) (OwnImage cfg) s := by
  cases op with
  | select imgIdx => exact ⟨trivial, trivial⟩
  | write imgIdx data off rem =>
      exact along_ownImage hbuild
        ((uses_otsObjWrite (onImage_callsOn _) fun _ _ => rfl).bind fun _ => trivial) hs
  | read imgIdx data len off =>
      cases data with
      | true =>
          exact along_ownImage hbuild ((uses_otsObjRead (onImage_callsOn _)).bind fun _ => trivial)
            (hs rfl)
      | false => exact trivial
  | checksum imgIdx off len =>
      by_cases hmax : cfg.imageMax < imgIdx.toNat
      · simp only [ImageOp.program, otsObjCalChecksum, if_pos hmax]
        trivial
      · exact along_ownImage hbuild
          ((uses_otsObjCalChecksum (onImage_callsOn _)).bind fun _ => trivial)
          (hs (Nat.le_of_not_lt hmax))
  | display r => exact Program.along_bind.mpr ⟨along_displayControl hbuild hs, trivial⟩
  | close => exact ⟨trivial, trivial⟩

end Callbacks

/-! ## Whole runs -/

/-- The calls of an operation are for its own image. -/
def ImageOp.ActsOnOwn (s : ImageStore F Z) (op : ImageOp) : Prop :=
  (op.program cfg d).Along (callSem cfg) (OwnImage cfg) s

/-- **One file for each image.**  In a run whose operations find the file object ready, no call of
any operation writes or reads the file of another image. -/
theorem image_calls_own (hbuild : cfg.build = .lfs) {s : ImageStore F Z} {ops : List ImageOp}
    (hready : StepsMeet (imageStep cfg d) (fun s op => op.FindsReady cfg d s) s ops) :
    StepsMeet (imageStep cfg d) (fun s op => op.ActsOnOwn cfg d s) s ops :=
  hready.strengthen (I := fun _ => True) (fun _ _ _ _ _ _ => trivial)
    (fun _ op _ _ hop _ => along_program hbuild op hop) trivial

/-- An image of 8 by 8 pixels in file 0, and nothing in file 1. -/
def twoImages : RefStore where
  volume :=
    { contents := Function.update (Function.update (fun _ => none) (imagePath 0)
        (some [0, 0, 8, 0, 8, 0, 1, 2, 3, 4, 5, 6, 7, 8])) (imagePath 1) (some [])
      file := none }
  zms := fun _ => none
  imgObjBuf := fun _ => 0
  storedImageSize := fun _ => 0
  panel := []

/-- Image 0 is shown, and the panel refuses the first chunk. -/
def refusedRun : DisplayRun where
  dispIdx := 0
  imgIdx := 0
  xResolution := 200
  yResolution := 200
  writeResult _ := -5

/-- An object is selected and written, and the other one read. -/
theorem image_calls_own_upload :
    StepsMeet (imageStep lfsSample epdShieldDisplay)
      (fun (s : RefStore) op => op.ActsOnOwn lfsSample epdShieldDisplay s) twoImages
      [.select 1, .write 1 [1, 2, 3] 0 0, .read 0 true 4 0] := by
  refine image_calls_own lfsSample epdShieldDisplay rfl fun s₁ h₁ => ⟨trivial, fun s₂ h₂ => ⟨?_, ?_⟩⟩
  · cases h₁
    exact .inr (by decide +kernel)
  · cases h₁
    cases h₂
    exact fun s₃ _ => ⟨fun _ => .inl (by decide +kernel), trivial⟩

/-- The first part of an image 1 that is uploaded while image 0 is shown goes into file 0: the driver
of the uc81xx shield returns from a failed `display_write` with its file open. -/
theorem not_image_calls_own :
    ¬ StepsMeet (imageStep lfsSample epdShieldUc81xxDisplay)
      (fun (s : RefStore) op => op.ActsOnOwn lfsSample epdShieldUc81xxDisplay s) twoImages
      [.select 1, .display refusedRun, .write 1 [1, 2, 3] 0 0] := by
  intro h
  have hwrite := ((((h _ rfl).2 _ rfl).2 _ rfl).1).2.1 (imagePath 0) (by decide)
  revert hwrite
  decide +kernel

end NrfEsl
