import NrfEsl.BackEnds
import NrfEsl.ChunkedDisplay
import NrfEsl.ImageReadErrors
import NrfEsl.UploadInterleaving

/-!
# An image, from the access point to the panel

`esl_c_obj_write_by_name` reads an image from a file, keeps its checksum and gives it to the Object
Transfer Service, which carries it to the tag in chunks of some size.  `ots_obj_write` stores them,
between whatever else runs on the tag.  Later `ots_obj_cal_checksum` reads the image back for the
access point, and `display_control` shows it.

**What arrives** is in `Delivered`: the bytes of the file are stored, the access point accepts the
checksum that is computed of them, and in a LittleFS build every panel the file fills in whole rows
shows what is behind the header.

The three parts meet at the bytes sent: `bytes_of_sent` for the access point, the invariant of an
undisturbed upload for the tag, and `delivered_of_stored` for what the tag does with a stored image.
-/

namespace NrfEsl

open TransitionSystem

variable {F : Device (FileSystem.interface Path)} {Z : Device (RecordStore.interface ℕ)}

/-! ## Specification -/

/-- The tag can read an image: in a LittleFS build the file object is not open for another one. -/
def ImageStore.CanRead (cfg : ImageConfig) (s : ImageStore F Z) (imgIdx : UInt8) : Prop :=
  cfg.build = .lfs → s.files.ReadyFor (imagePath imgIdx)

/-- A panel takes the file: its driver finds it, reports no failed write, accepts the header, and the
payload fills whole rows. -/
structure TakesFile (cfg : ImageConfig) (d : DisplayDriver) (r : DisplayRun) (content : List UInt8)
    (s : ImageStore F Z) : Prop where
  shows : ShowsFile d r
  works : d.reportsWrites → ∀ n, r.writeResult n = 0
  finds : FileReady d r s
  accepted : ¬ ((displayHeader d r).exec (callSem cfg) s).1.Rejected r
  fills : FillsRows ((displayHeader d r).exec (callSem cfg) s).1.w.toNat r.yResolution.toNat
    content.length

/-- **The tag has the image**, and the access point has kept `lastImageCrc` of it. -/
structure Delivered (cfg : ImageConfig) (crc32Ieee : List UInt8 → UInt32) (lastImageCrc : UInt32)
    (imgIdx : UInt8) (content : List UInt8) (s : ImageStore F Z) : Prop where
  stored : s.storedBytes cfg imgIdx = content
  valid : s.CanRead cfg imgIdx →
    objChecksumCalculated
        (crc32Ieee (bufferedAfter cfg (otsObjCalChecksum cfg imgIdx 0 content.length) content.length s))
        lastImageCrc
      = "Last transferred image is valid\n".toList
  shown : cfg.build = .lfs → ∀ d (r : DisplayRun), r.imgIdx = imgIdx → TakesFile cfg d r content s →
    DisplaysChunks cfg d r (content.drop grayHeadSize) s

/-- When the last chunk has been written, the image is there. -/
def DeliveredAtEnd {cfg : ImageConfig} (u : Upload cfg) (crc32Ieee : List UInt8 → UInt32)
    (lastImageCrc : UInt32) (content : List UInt8) (x : UploadState F Z) : Prop :=
  x.Finished → Delivered cfg crc32Ieee lastImageCrc u.imgIdx content x.pool.shared.store

/-! ## The access point -/

section AccessPoint

variable {cfg : ApImageConfig} {crc32Ieee : List UInt8 → UInt32} {otc : OtsClient}
  {f₁ f₂ : ImageFaults} {random : Vector UInt8 100} {connIdx tagImgIdx : UInt8}
  {imgName : List Char} {imgObjBuf : Mem} {lastImageCrc : UInt32} {files : TagFiles}

/-- The checksum that is kept is the one of the bytes that are sent. -/
lemma lastImageCrc_of_sent {data : List UInt8}
    (h : (eslCObjWriteByName cfg crc32Ieee otc f₁ f₂ random connIdx tagImgIdx imgName imgObjBuf
      lastImageCrc files).sent = some data) :
    (eslCObjWriteByName cfg crc32Ieee otc f₁ f₂ random connIdx tagImgIdx imgName imgObjBuf
      lastImageCrc files).lastImageCrc = crc32Ieee data := by
  have hsend : ∀ (w : ImageWrite) (size : ℕ), (w.send crc32Ieee otc size).sent = some data →
      (w.send crc32Ieee otc size).lastImageCrc = crc32Ieee data := by
    intro w size hw
    exact congrArg crc32Ieee (Option.some.inj hw)
  unfold eslCObjWriteByName at h ⊢
  split
  · rename_i hconn
    rw [if_pos hconn] at h
    cases h
  rename_i hconn
  rw [if_neg hconn] at h
  split
  · rename_i hselect
    rw [if_pos hselect] at h
    cases h
  rename_i hselect
  rw [if_neg hselect] at h
  split
  · rename_i hpts
    rw [if_pos hpts] at h
    exact hsend _ _ h
  rename_i hpts
  rw [if_neg hpts] at h
  dsimp only at h ⊢
  split
  · rename_i hret
    rw [if_pos hret] at h
    cases h
  · rename_i hret
    rw [if_neg hret] at h
    exact hsend _ _ h

/-- **What is sent is the file**, if the read did not stop before its end. -/
lemma bytes_of_sent (hbranch : SendsFile cfg otc connIdx tagImgIdx imgName) {content data : List UInt8}
    (hfile : files (imgPath imgName) = some content) (hne : content ≠ [])
    (hfits : content.length ≤ cfg.imageFileSize) (hwhole : f₂.Reaches 0 content.length)
    (hsent : (eslCObjWriteByName cfg crc32Ieee otc f₁ f₂ random connIdx tagImgIdx imgName imgObjBuf
      lastImageCrc files).sent = some data) : data = content := by
  have hbytes : (files (imgPath imgName)).getD [] = content := by
    rw [hfile, Option.getD_some]
  have hmoves : f₂.moves 0 content = content := moves_eq_self_iff.mpr hwhole
  have hright : SendRight cfg f₁ f₂ (files (imgPath imgName)) := by
    rw [SendRight, hbytes]
    refine ⟨fun _ _ => hfits, .inr (.inr ⟨?_, .inr (.inr ⟨content, hfile, hne, hwhole⟩)⟩)⟩
    rwa [MovesInto, hmoves]
  have hsends : SendsImage cfg (files (imgPath imgName)) (eslCObjWriteByName cfg crc32Ieee otc f₁ f₂
      random connIdx tagImgIdx imgName imgObjBuf lastImageCrc files) := by
    refine sendsImage_iff.mpr (.inr (.inr ?_))
    rwa [if_neg hbranch.file]
  obtain ⟨content', hfile', -, rfl⟩ := hsends.sent data hsent
  exact Option.some.inj (hfile'.symm.trans hfile)

end AccessPoint

/-! ## A stored image -/

section Stored

variable {cfg : ImageConfig} {imgIdx : UInt8} {content : List UInt8}

/-- The file of a stored image. -/
lemma contents_of_storedBytes (hbuild : cfg.build = .lfs) (hne : content ≠ []) {s : ImageStore F Z}
    (h : s.storedBytes cfg imgIdx = content) : s.files.contents (imagePath imgIdx) = some content := by
  simp only [ImageStore.storedBytes, hbuild] at h
  cases hcontents : s.files.contents (imagePath imgIdx) with
  | none =>
      rw [hcontents] at h
      exact absurd h.symm hne
  | some bytes =>
      rw [hcontents] at h
      exact congrArg some h

/-- The record of a stored image. -/
lemma records_of_storedBytes (hbuild : cfg.build = .nvs) (hne : content ≠ []) {s : RefStore}
    (h : s.storedBytes cfg imgIdx = content) : s.Records imgIdx content := by
  rw [RefStore.Records, if_neg hne]
  simp only [ImageStore.storedBytes, hbuild] at h
  cases hrecord : s.records imgIdx.toNat with
  | none =>
      rw [hrecord] at h
      exact absurd h.symm hne
  | some bytes =>
      rw [hrecord] at h
      exact congrArg some h

/-- Read back as a whole, a stored image is what it is. -/
lemma readsRight_of_storedBytes (hne : content ≠ []) {s : RefStore}
    (h : s.storedBytes cfg imgIdx = content) (hread : s.CanRead cfg imgIdx) :
    ReadsRight cfg s imgIdx content 0 content.length := by
  cases hbuild : cfg.build with
  | lfs =>
      have hholds : s.Holds imgIdx content := ⟨contents_of_storedBytes hbuild hne h, hread hbuild⟩
      exact readsRight_lfs hbuild hholds (Nat.le_of_eq (Nat.zero_add _))
  | nvs =>
      exact readsRight_nvs hbuild (records_of_storedBytes hbuild hne h)
        (Nat.le_of_eq (Nat.zero_add _)) (.inr ⟨Nat.zero_le _, rfl⟩)

lemma slice_whole (content : List UInt8) : slice content 0 content.length = content := by
  rw [slice, List.drop_zero, List.take_length]

/-- **A stored image is delivered**, when the access point has kept its checksum. -/
lemma delivered_of_stored (crc32Ieee : List UInt8 → UInt32) (himg : imgIdx.toNat ≤ cfg.imageMax)
    (hne : content ≠ []) (hmax : content.length ≤ lfsFileMax) {s : RefStore}
    (h : s.storedBytes cfg imgIdx = content) :
    Delivered cfg crc32Ieee (crc32Ieee content) imgIdx content s where
  stored := h
  valid hread := by
    have hbuffer := (readsRight_of_storedBytes hne h hread).checksum himg
    rw [slice_whole, Int.natCast_zero] at hbuffer
    rw [hbuffer, objChecksumCalculated, if_neg (not_not_intro rfl)]
  shown hbuild d r hr htakes := by
    subst hr
    exact (displaysChunks_ref_iff cfg d r content s hbuild htakes.shows htakes.works
      (contents_of_storedBytes hbuild hne h) htakes.finds hmax htakes.accepted).mpr htakes.fills

/-- The devices of a tag that works are not seen. -/
lemma delivered_observed (hF : F.Reliable) (hZ : Z.Reliable) {crc32Ieee : List UInt8 → UInt32}
    {lastImageCrc : UInt32} {s : ImageStore F Z}
    (h : Delivered cfg crc32Ieee lastImageCrc imgIdx content s.observed) :
    Delivered cfg crc32Ieee lastImageCrc imgIdx content s where
  stored := h.stored
  valid hread := by
    rw [bufferedAfter_observed hF hZ]
    exact h.valid hread
  shown hbuild d r hr htakes := by
    refine (displaysChunks_observed hF hZ s).mp (h.shown hbuild d r hr ?_)
    have hheader : ((displayHeader d r).exec (callSem cfg) s.observed).1
        = ((displayHeader d r).exec (callSem cfg) s).1 := by
      rw [exec_callSem_observed hF hZ]
    refine ⟨htakes.shows, htakes.works, htakes.finds, ?_, ?_⟩
    · rw [hheader]
      exact htakes.accepted
    · rw [hheader]
      exact htakes.fills

end Stored

lemma zero_lt_imageMax_lfsSample : (0 : UInt8).toNat < lfsSample.imageMax := by
  decide

/-- A full picture for the small panel, sent in two chunks. -/
def pictureInTwo : Upload lfsSample where
  imgIdx := 0
  chunks := [(smallFile (List.replicate 16 7)).take 10, (smallFile (List.replicate 16 7)).drop 10]
  imgIdx_lt := zero_lt_imageMax_lfsSample
  chunks_ne := List.cons_ne_nil _ _
  length_lt := by decide

/-- Between the chunks another image is shown. -/
def shownBetween : List UploadEvent :=
  .chunk :: List.replicate 10 .upload ++ .start 0 showImage1 :: List.replicate 12 (.other 0)
    ++ .chunk :: List.replicate 11 .upload

end NrfEsl
