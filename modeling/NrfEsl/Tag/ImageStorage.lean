import NrfEsl.Common
import NrfEsl.Lib.FileSystem
import NrfEsl.Lib.Program
import NrfEsl.Lib.RecordStore
import NrfEsl.Lib.Text

/-!
# The image storage of the tag

`lfs.c` and `nvs.c` implement the storage callbacks of `struct bt_esl_cb` over a file system and
over the records of ZMS.  Both levels are actions of programs:

* `ImageCall` — the callbacks, and what `esl.c` and the display drivers do in RAM: with the image
  buffer, the stored sizes and the panel (`RamCall`).
* `FlashCall` — the calls of the file system and of ZMS, and the same in RAM.
* `impl` — the callbacks as programs over these calls, one text for each back end.

`callSem` runs a callback as one action; a program of callbacks then runs as its expansion does
(`Program.exec_expand`).  The file system and ZMS are any devices with the documented behaviour.
-/

namespace NrfEsl

/-- `choice` of the storage back end. -/
inductive StorageBuild
  | nvs | lfs
  deriving DecidableEq, Repr

/-- The symbols of the image storage, with the range of `CONFIG_ESL_IMAGE_BUFFER_SIZE`. -/
structure ImageConfig extends Config where
  build : StorageBuild
  imageBufferSize : ℕ
  imageBufferSize_le : imageBufferSize ≤ 16484

/-- A LittleFS build of the sample. -/
def lfsSample : ImageConfig where
  toConfig := Config.sample
  build := .lfs
  imageBufferSize := 64
  imageBufferSize_le := by decide

/-- A build of the sample with ZMS. -/
def nvsSample : ImageConfig where
  toConfig := Config.sample
  build := .nvs
  imageBufferSize := 64
  imageBufferSize_le := by decide

/-- A file name.  All files stand under one mount point, which is left out. -/
abbrev Path := List Char

/-- `OBJECT_IDX_FULLNAME_TEMPLETE` -/
def imagePath (imgIdx : UInt8) : Path :=
  "esl_image_".toList ++ (Text.hexByte imgIdx).map Char.toUpper

/-- Every image has its own file. -/
lemma imagePath_injective : Function.Injective imagePath := by
  have hread : ∀ i, Text.ofHex? ((imagePath i).drop 10) = some [i] :=
    forall_uint8 (P := fun i => Text.ofHex? ((imagePath i).drop 10) = some [i]) (by decide +kernel)
  intro i j hij
  have hi := hread i
  rw [hij, hread j] at hi
  exact (List.cons.inj (Option.some.inj hi)).1.symm

/-- `IMG_SIZE_OFFSET` -/
def imgSizeOffset : ℕ := 0x100
/-- `OTS_LFS_RETRY` -/
def otsLfsRetry : ℕ := 3

/-! ## Actions -/

/-- What the code does in RAM and at the panel. -/
inductive RamCall
  /-- `memset(img_obj_buf, 0, CONFIG_ESL_IMAGE_BUFFER_SIZE)` -/
  | memset
  /-- `memcpy(img_obj_buf + off, data, len)` -/
  | memcpy (data : List UInt8) (off : ℕ)
  /-- The first bytes of `img_obj_buf`. -/
  | peek (len : ℕ)
  | setStoredImageSize (imgIdx : UInt8) (size : UInt32)
  /-- `len` bytes of `img_obj_buf` from `off` on go to the panel, at row `y`. -/
  | displayWrite (y height : UInt16) (off len : ℕ)

@[reducible] def RamCall.Res : RamCall → Type
  | peek _ => List UInt8
  | _ => Unit

/-- The calls below the storage callbacks.  `fsWrite` and `fsRead` go from and to `img_obj_buf`, as
do `zmsWrite` and `zmsRead`. -/
inductive FlashCall
  | ram (c : RamCall)
  | file (c : FileSystem.Call Path)
  | fsWrite (len : ℕ)
  | fsRead (len : ℕ)
  | record (c : RecordStore.Call ℕ)
  | zmsWrite (id len : ℕ)
  | zmsRead (id len : ℕ)

@[reducible] def FlashCall.Res : FlashCall → Type
  | ram c => c.Res
  | file c => c.Res
  | record c => c.Res
  | fsWrite _ | fsRead _ | zmsWrite _ _ | zmsRead _ _ => Int

/-- A program of the lower level. -/
abbrev FlashProgram := Program FlashCall.Res

/-- One call. -/
abbrev flashCall (c : FlashCall) : FlashProgram c.Res := .perform c

/-- What was handed to the panel in one call. -/
structure PanelWrite where
  y : UInt16
  height : UInt16
  bytes : List UInt8
  deriving DecidableEq, Repr

/-- The flash behind the storage and the RAM around it. -/
structure ImageStore (F : Device (FileSystem.interface Path)) (Z : Device (RecordStore.interface ℕ))
    where
  volume : F.Volume
  zms : Z.Volume
  imgObjBuf : Mem
  storedImageSize : ℕ → UInt32
  panel : List PanelWrite

section Semantics

variable (cfg : ImageConfig) {F : Device (FileSystem.interface Path)}
  {Z : Device (RecordStore.interface ℕ)}

namespace ImageStore

/-- What can be seen of the file system. -/
def files (s : ImageStore F Z) : FileSystem.View Path := F.view s.volume

/-- What can be seen of ZMS. -/
def records (s : ImageStore F Z) : RecordStore.View ℕ := Z.view s.zms

/-- A call of the file system. -/
def fileCall (c : FileSystem.Call Path) (s : ImageStore F Z) : c.Res × ImageStore F Z :=
  ((F.perform c s.volume).1, { s with volume := (F.perform c s.volume).2 })

/-- A call of ZMS. -/
def recordCall (c : RecordStore.Call ℕ) (s : ImageStore F Z) : c.Res × ImageStore F Z :=
  ((Z.perform c s.zms).1, { s with zms := (Z.perform c s.zms).2 })

/-- Bytes are copied to the start of the buffer. -/
def fill (bytes : List UInt8) (s : ImageStore F Z) : ImageStore F Z :=
  { s with imgObjBuf := s.imgObjBuf.write 0 bytes }

end ImageStore

/-- The effect of an action in RAM. -/
def ramSem : ∀ c : RamCall, ImageStore F Z → c.Res × ImageStore F Z
  | .memset, s => ((), s.fill (List.replicate cfg.imageBufferSize 0))
  | .memcpy data off, s => ((), { s with imgObjBuf := s.imgObjBuf.write off data })
  | .peek len, s => (s.imgObjBuf.read 0 len, s)
  | .setStoredImageSize imgIdx size, s =>
      ((), { s with storedImageSize := Function.update s.storedImageSize imgIdx.toNat size })
  | .displayWrite y height off len, s =>
      ((), { s with panel := s.panel ++ [⟨y, height, s.imgObjBuf.read off len⟩] })

/-- The effect of a call of the lower level. -/
def flashSem : ∀ c : FlashCall, ImageStore F Z → c.Res × ImageStore F Z
  | .ram c, s => ramSem cfg c s
  | .file c, s => s.fileCall c
  | .fsWrite len, s => s.fileCall (.write (s.imgObjBuf.read 0 len))
  | .fsRead len, s =>
      let (r, s) := s.fileCall (.read len)
      (r.1, s.fill r.2)
  | .record c, s => s.recordCall c
  | .zmsWrite id len, s => s.recordCall (.write id (s.imgObjBuf.read 0 len))
  | .zmsRead id len, s =>
      let (r, s) := s.recordCall (.read id len)
      (r.1, s.fill r.2)

end Semantics

/-! ## `lfs.c` -/

namespace Lfs

def fileIsOpen : FlashProgram Bool := flashCall (.file .isOpen)
def fsFileTInit : FlashProgram Unit := flashCall (.file .fileInit)
def fsOpen (p : Path) : FlashProgram Int := flashCall (.file (.openFile p))
def fsClose : FlashProgram Int := flashCall (.file .close)
def fsSync : FlashProgram Int := flashCall (.file .sync)
def fsSeek (off : Int) : FlashProgram Int := flashCall (.file (.seek off))
def fsWrite (len : ℕ) : FlashProgram Int := flashCall (.fsWrite len)
def fsRead (len : ℕ) : FlashProgram Int := flashCall (.fsRead len)
def fsStat (p : Path) : FlashProgram (Int × ℕ) := flashCall (.file (.stat p))
def fsUnlink (p : Path) : FlashProgram Int := flashCall (.file (.unlink p))
def fsMount : FlashProgram Int := flashCall (.file .mount)

def openImageFromStorage (imgIdx : UInt8) : FlashProgram Int := do
  if ← fileIsOpen then
    let _ ← fsClose
  fsFileTInit
  fsOpen (imagePath imgIdx)

def closeImageFromStorage : FlashProgram Int := do
  if ← fileIsOpen then
    let _ ← fsSync
    fsClose
  else
    return 0

/-- The first lines of `write_img_to_storage` and `read_img_from_storage`. -/
def openIfClosed (imgIdx : UInt8) : FlashProgram Unit := do
  if ← fileIsOpen then
    return ()
  else
    let _ ← openImageFromStorage imgIdx

def writeImgToStorage (imgIdx : UInt8) (len : ℕ) (off : Int) : FlashProgram Int := do
  openIfClosed imgIdx
  let rc ← fsSeek off
  if rc < 0 then return rc else fsWrite len

def readImgFromStorage (imgIdx : UInt8) (len : ℕ) (off : Int) : FlashProgram Int := do
  openIfClosed imgIdx
  let rc ← fsSeek off
  if rc < 0 then return rc else fsRead len

def readImgSizeFromStorage (imgIdx : UInt8) : FlashProgram ℕ := do
  let (rc, size) ← fsStat (imagePath imgIdx)
  return if rc = 0 then size else 0

def deleteImgsFromStorage (imageMax : ℕ) : FlashProgram Int := do
  Program.forIdx (fun idx => do let _ ← fsUnlink (imagePath (UInt8.ofNat idx))) imageMax
  return 0

/-- The file object of this function is a local one.  The global one is not open yet, so that one
object can stand for both. -/
def otsStorageInit (imageMax : ℕ) : FlashProgram Unit := do
  let rc ← fsMount
  if rc < 0 then
    return ()
  else
    Program.forIdx (fun idx => do
      let (rc, _) ← fsStat (imagePath (UInt8.ofNat idx))
      if rc = FileSystem.enoent then
        let _ ← fsOpen (imagePath (UInt8.ofNat idx))
      let _ ← fsClose) imageMax

end Lfs

/-! ## `nvs.c` -/

namespace Nvs

def zmsDelete (id : ℕ) : FlashProgram Int := flashCall (.record (.delete id))
def zmsWriteSize (id : ℕ) (size : UInt32) : FlashProgram Int :=
  flashCall (.record (.write id (le32Bytes size)))
def zmsReadSize (id : ℕ) : FlashProgram (Int × List UInt8) := flashCall (.record (.read id 4))
def zmsWrite (id len : ℕ) : FlashProgram Int := flashCall (.zmsWrite id len)
def zmsRead (id len : ℕ) : FlashProgram Int := flashCall (.zmsRead id len)

def writeImgToStorage (imgIdx : UInt8) (len : ℕ) (_off : Int) : FlashProgram Int := do
  let rc ← zmsWrite imgIdx.toNat len
  if rc < 0 then
    return rc
  else
    zmsWriteSize (imgIdx.toNat + imgSizeOffset) (UInt32.ofNat len)

/-- The comparison is unsigned. -/
def readImgFromStorage (imgIdx : UInt8) (len : ℕ) (off : Int) : FlashProgram Int := do
  if off < 0 ∨ len < off then return FileSystem.einval else zmsRead imgIdx.toNat len

/-- A size record has four bytes; of a shorter one the rest would be left as it was. -/
def readImgSizeFromStorage (imgIdx : UInt8) : FlashProgram ℕ := do
  let (rc, size) ← zmsReadSize (imgIdx.toNat + imgSizeOffset)
  return if rc < 0 then 0 else (sysGetLe32 (Mem.ofBytes size fun _ => 0) 0).toNat

/-- The loop from `idx` on, `n` turns. -/
def deleteFrom (idx : ℕ) : ℕ → FlashProgram Int
  | 0 => return 0
  | n + 1 => do
      let rc ← zmsDelete idx
      if rc ≠ 0 then
        return rc
      else
        let rc ← zmsDelete (idx + imgSizeOffset)
        if rc ≠ 0 then return rc else deleteFrom (idx + 1) n

def deleteImgsFromStorage (imageMax : ℕ) : FlashProgram Int := deleteFrom 0 imageMax

end Nvs

/-! ## The callbacks -/

/-- The storage callbacks of `struct bt_esl_cb`, and the actions in RAM. -/
inductive ImageCall
  | ram (c : RamCall)
  | openImage (imgIdx : UInt8)
  | closeImage
  | writeImg (imgIdx : UInt8) (len : ℕ) (off : Int)
  | readImg (imgIdx : UInt8) (len : ℕ) (off : Int)
  | readImgSize (imgIdx : UInt8)
  | deleteImgs

@[reducible] def ImageCall.Res : ImageCall → Type
  | ram c => c.Res
  | readImgSize _ => ℕ
  | _ => Int

/-- A program of the upper level. -/
abbrev ImageProgram := Program ImageCall.Res

/-- The callbacks that `main.c` registers. -/
def impl (cfg : ImageConfig) : ∀ c : ImageCall, FlashProgram c.Res
  | .ram c => flashCall (.ram c)
  | .openImage imgIdx =>
      match cfg.build with
      | .lfs => Lfs.openImageFromStorage imgIdx
      | .nvs => return 0
  | .closeImage =>
      match cfg.build with
      | .lfs => Lfs.closeImageFromStorage
      | .nvs => return 0
  | .writeImg imgIdx len off =>
      match cfg.build with
      | .lfs => Lfs.writeImgToStorage imgIdx len off
      | .nvs => Nvs.writeImgToStorage imgIdx len off
  | .readImg imgIdx len off =>
      match cfg.build with
      | .lfs => Lfs.readImgFromStorage imgIdx len off
      | .nvs => Nvs.readImgFromStorage imgIdx len off
  | .readImgSize imgIdx =>
      match cfg.build with
      | .lfs => Lfs.readImgSizeFromStorage imgIdx
      | .nvs => Nvs.readImgSizeFromStorage imgIdx
  | .deleteImgs =>
      match cfg.build with
      | .lfs => Lfs.deleteImgsFromStorage cfg.imageMax
      | .nvs => Nvs.deleteImgsFromStorage cfg.imageMax

/-- A callback as one action. -/
def callSem (cfg : ImageConfig) {F : Device (FileSystem.interface Path)}
    {Z : Device (RecordStore.interface ℕ)} (c : ImageCall) :
    ImageStore F Z → c.Res × ImageStore F Z :=
  (impl cfg c).exec (flashSem cfg)

end NrfEsl
