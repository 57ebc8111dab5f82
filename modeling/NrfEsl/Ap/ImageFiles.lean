import NrfEsl.Ap.TagFiles
import NrfEsl.Lib.Memory

/-!
# The images of the access point

The sample reads an image in two steps: `ap_read_img_size_from_storage` for its size, which the client
clears in its image buffer, and `ap_read_img_from_storage` for the bytes.  Each opens the file with
`FS_O_CREATE`.  `esl_c_obj_write_by_name` then sends what has been read to the tag that is selected.

A file is its bytes, and a call may fail (`ImageFaults`); a call that fails to open leaves the files as
they are.  The buffer is the memory from its first byte on, and the lengths of all writes to it are listed.
-/

namespace NrfEsl

open FileSession

/-- `CONFIG_BT_MAX_CONN`, `CONFIG_ESL_IMAGE_FILE_SIZE` with its range, and `CONFIG_BT_ESL_AP_PTS`. -/
structure ApImageConfig where
  maxConn : ℕ
  imageFileSize : ℕ
  pts : Bool
  imageFileSize_le : imageFileSize ≤ 102400

/-- The failures of a session with an image: those of every session, and `fs_read` may answer an
error, after some bytes have been delivered. -/
structure ImageFaults extends Faults where
  read : Status

/-- Every call works. -/
def ImageFaults.none : ImageFaults := { Faults.none with read := 0 }

/-- `-ENXIO` -/
def enxio : ℤ := -6

/-! ## Reading -/

/-- `fs_open` with `FS_O_CREATE`, when it works: the bytes, and the files. -/
def openCreate (path : List Char) (files : TagFiles) : List UInt8 × TagFiles :=
  ((files path).getD [], Function.update files path (some ((files path).getD [])))

/-- `ap_read_img_size_from_storage` -/
def apReadImgSizeFromStorage (f : ImageFaults) (imgPath : List Char) (files : TagFiles) :
    ℕ × TagFiles :=
  if f.opened.val < 0 then (0, files)
  else
    let file := openCreate imgPath files
    if f.looked.val < 0 then (0, file.2) else (file.1.length, file.2)

/-- What `ap_read_img_from_storage` returns, writes to `data` and to `len`, and the files. -/
structure ImageRead where
  ret : ℤ
  data : List UInt8
  len : Option ℕ
  files : TagFiles

/-- The label `out` of `ap_read_img_from_storage`. -/
def imageOut (f : ImageFaults) (rc : ℤ) : ℤ :=
  if f.closed.val < 0 then f.closed.val else if rc < 0 then rc else 0

/-- `ap_read_img_from_storage`.  For an empty file `ret` is set to `-ENXIO`; the function goes on, and
the label `out` sets it anew. -/
def apReadImgFromStorage (f : ImageFaults) (imgPath : List Char) (files : TagFiles) : ImageRead :=
  if f.opened.val < 0 then ⟨f.opened.val, [], none, files⟩
  else
    let file := openCreate imgPath files
    if f.looked.val < 0 then ⟨imageOut f f.looked.val, [], none, file.2⟩
    else
      let got := ((Stream.start file.1).read f.toFaults file.1.length).1
      if f.read.val < 0 then ⟨imageOut f f.read.val, got, none, file.2⟩
      else ⟨imageOut f got.length, got, some got.length, file.2⟩

/-! ## Sending -/

/-- What the object transfer client of a connection answers: to selecting an object, and to the data. -/
structure OtsClient where
  selectId : ℕ → ℤ
  writeObjectData : List UInt8 → ℤ

/-- `BT_OTS_OBJ_ID_MIN` -/
def btOtsObjIdMin : ℕ := 256

/-- The path of an image under `MNT_POINT`, as long as a path may be. -/
def imgPath (imgName : List Char) : List Char := tagPath "/ots_image".toList imgName

/-- What `esl_c_obj_write_by_name` returns, the image buffer with the lengths of all writes to it, the
checksum, the files, and what is sent. -/
structure ImageWrite where
  ret : ℤ
  imgObjBuf : Mem
  written : List ℕ
  lastImageCrc : UInt32
  files : TagFiles
  sent : Option (List UInt8)

/-- What goes before: the checksum and the data. -/
def ImageWrite.send (crc32Ieee : List UInt8 → UInt32) (otc : OtsClient) (size : ℕ) (w : ImageWrite) :
    ImageWrite :=
  let data := w.imgObjBuf.read 0 size
  { w with lastImageCrc := crc32Ieee data, sent := some data, ret := otc.writeObjectData data }

/-- `esl_c_obj_write_by_name`.  `f₁` and `f₂` are the failures of its two sessions, `random` is what
`bt_rand` delivers; `imgObjBuf`, `lastImageCrc` and `files` are what is there before. -/
def eslCObjWriteByName (cfg : ApImageConfig) (crc32Ieee : List UInt8 → UInt32) (otc : OtsClient)
    (f₁ f₂ : ImageFaults) (random : Vector UInt8 100) (connIdx tagImgIdx : UInt8)
    (imgName : List Char) (imgObjBuf : Mem) (lastImageCrc : UInt32) (files : TagFiles) : ImageWrite :=
  if connIdx.toNat ≥ cfg.maxConn then
    ⟨FileSystem.einval, imgObjBuf, [], lastImageCrc, files, none⟩
  else if otc.selectId (btOtsObjIdMin + tagImgIdx.toNat) ≠ 0 then
    ⟨FileSystem.enoent, imgObjBuf, [], lastImageCrc, files, none⟩
  else if cfg.pts = true ∧ imgName = "PTS".toList then
    (ImageWrite.mk 0 (imgObjBuf.write 0 random.toList) [100] lastImageCrc files none).send crc32Ieee
      otc 100
  else
    let size := apReadImgSizeFromStorage f₁ (imgPath imgName) files
    let imgObjBuf := imgObjBuf.write 0 (List.replicate size.1 0)
    let r := apReadImgFromStorage f₂ (imgPath imgName) size.2
    let w : ImageWrite :=
      ⟨enxio, imgObjBuf.write 0 r.data, [size.1, r.data.length], lastImageCrc, r.files, none⟩
    if r.ret ≠ 0 then w else w.send crc32Ieee otc (r.len.getD size.1)

/-- `obj_checksum_calculated`: what is printed for the checksum of a tag. -/
def objChecksumCalculated (crc lastImageCrc : UInt32) : List Char :=
  if crc ≠ lastImageCrc then "Last transferred image not valid\n".toList
  else "Last transferred image is valid\n".toList

end NrfEsl
