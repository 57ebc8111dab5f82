import NrfEsl.Tag.ImageObjects

/-!
# The image dump command of the tag

`cmd_esl_img_dump` of `esl_shell.c` prints an image and its checksum.  In a build with ZMS it reads the
image at once, otherwise in chunks of the image buffer: `dumpLoop`, on a remaining size of 32 bits.

`crc32_ieee_update` comes from Zephyr; `Crc32` is any checksum that can be computed piece by piece, and
`Crc32.zephyr` the one of Zephyr.
-/

namespace NrfEsl

/-! ## Checksums -/

/-- `crc32_ieee_update`: nothing is added by no bytes, and bytes in two pieces count as one. -/
structure Crc32 where
  update : UInt32 → List UInt8 → UInt32
  update_nil : ∀ crc, update crc [] = crc
  update_append : ∀ crc xs ys, update (update crc xs) ys = update crc (xs ++ ys)

/-- `crc32_ieee` -/
def Crc32.ieee (c : Crc32) (data : List UInt8) : UInt32 := c.update 0 data

/-- One bit of the division by the polynomial. -/
def crc32Bit (crc : UInt32) : UInt32 :=
  if crc % 2 = 1 then (crc >>> 1) ^^^ 0xedb88320 else crc >>> 1

/-- One byte of it. -/
def crc32Byte (crc : UInt32) (b : UInt8) : UInt32 :=
  (List.range 8).foldl (fun crc _ => crc32Bit crc) (crc ^^^ b.toUInt32)

/-- The checksum of Zephyr. -/
def Crc32.zephyr : Crc32 where
  update crc data := ~~~ data.foldl crc32Byte (~~~ crc)
  update_nil crc := UInt32.not_not
  update_append crc xs ys := by
    simp only [UInt32.not_not, List.foldl_append]

/-! ## The command -/

variable (cfg : ImageConfig) (c : Crc32)

/-- What the command prints: the bytes of its hex dumps, in their order, and the checksum. -/
structure ImageDump where
  dumped : List (List UInt8)
  crc : UInt32

/-- What stands at `data` after `ots_obj_cal_checksum` has returned `rc`: the image buffer, or `wild`
if the pointer was not set. -/
def checksumData (wild : Mem) (rc : Int) (len : ℕ) : ImageProgram (List UInt8) :=
  if rc = 0 then imageCall (.ram (.peek len)) else return wild.read 0 len

/-- The loop of `cmd_esl_img_dump`. -/
def dumpLoop (wild : Mem) (imgIdx : UInt8) :
    ℕ → UInt32 → UInt32 → UInt32 → ImageDump → ImageProgram (Option ImageDump)
  | 0, _, _, _, _ => return none
  | fuel + 1, size, chunkSize, curPos, out =>
      if size = 0 then
        return some out
      else do
        let rc ← otsObjCalChecksum cfg imgIdx curPos.toInt32.toInt chunkSize.toNat
        let data ← checksumData wild rc chunkSize.toNat
        let size := size - chunkSize
        let curPos := curPos + chunkSize
        let chunkSize := if size < chunkSize then size else chunkSize
        dumpLoop wild imgIdx fuel size chunkSize curPos
          ⟨out.dumped ++ [data], c.update out.crc data⟩

/-- No size of 32 bits needs more turns. -/
def dumpFuel : ℕ := 2 ^ 32 + 2

/-- `cmd_esl_img_dump` from the index on.  `BT_OTS_OBJ_ID_MIN` is 256, so that the object of an index
has that index again.  An index that is too high is reported, and used. -/
def cmdEslImgDump (wild : Mem) (imgIdx : UInt8) : ImageProgram (Option ImageDump) := do
  let size ← imageCall (.readImgSize imgIdx)
  match cfg.build with
  | .nvs =>
      let rc ← otsObjCalChecksum cfg imgIdx 0 size
      let data ← checksumData wild rc size
      return some ⟨[data], c.ieee data⟩
  | .lfs =>
      dumpLoop cfg c wild imgIdx dumpFuel (UInt32.ofNat size) (UInt32.ofNat cfg.imageBufferSize) 0
        ⟨[], 0⟩

end NrfEsl
