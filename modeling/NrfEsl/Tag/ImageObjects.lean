import NrfEsl.Tag.ImageStorage

/-!
# Image objects and their display

What `esl.c` and the display drivers do with images, as programs over the storage callbacks: the
callbacks of the Object Transfer Service (selection, read, write, checksum), the deletion of all
images, the sizes taken at boot, and `display_control`.

**The drivers.**  `display_control` is written out in three files, which differ in a few places: who
opens the file, who closes it after a bad header or a failed `display_write`, and what is returned.
`DisplayDriver` has a field for each of them.

**The chunk loop** of a LittleFS build works on a 32-bit remaining size, which may wrap.
`displayLoop` counts its turns; `displayFuel` is more than a size of 32 bits can need.
-/

namespace NrfEsl

/-- One callback or action. -/
abbrev imageCall (c : ImageCall) : ImageProgram c.Res := .perform c

variable (cfg : ImageConfig)

/-! ## Objects -/

/-- `buffer_img` -/
def bufferImg (data : List UInt8) (off : Int) : ImageProgram Unit :=
  if off < 0 ∨ cfg.imageBufferSize < off ∨ cfg.imageBufferSize - off < data.length then
    return ()
  else
    imageCall (.ram (.memcpy data off.toNat))

/-- `ots_obj_selected` -/
def otsObjSelected (imgIdx : UInt8) : ImageProgram Unit := do
  let _ ← imageCall (.openImage imgIdx)

/-- `ots_obj_read`; without `data` the transfer is over. -/
def otsObjRead (imgIdx : UInt8) (data : Bool) (len : ℕ) (off : Int) : ImageProgram ℕ :=
  if data then do
    imageCall (.ram .memset)
    let _ ← imageCall (.readImg imgIdx len off)
    return len
  else
    return 0

/-- The `do … while` of `ots_obj_write`, with the number of attempts left. -/
def writeRetry (imgIdx : UInt8) (len : ℕ) (off : Int) : ℕ → ImageProgram Unit
  | 0 => return ()
  | n + 1 => do
      let rc ← imageCall (.writeImg imgIdx len off)
      if rc < 0 then writeRetry imgIdx len off n else return ()

/-- `ots_obj_write` -/
def otsObjWrite (imgIdx : UInt8) (data : List UInt8) (off : Int) (rem : ℕ) : ImageProgram ℕ := do
  let size := UInt32.ofInt (off + data.length)
  match cfg.build with
  | .nvs =>
      bufferImg cfg data off
      if rem = 0 then
        imageCall (.ram (.setStoredImageSize imgIdx size))
        let _ ← imageCall (.writeImg imgIdx size.toNat 0)
  | .lfs =>
      imageCall (.ram (.memcpy data 0))
      writeRetry imgIdx data.length off otsLfsRetry
      let _ ← imageCall .closeImage
      if rem = 0 then
        imageCall (.ram (.setStoredImageSize imgIdx size))
  return data.length

/-- `ots_obj_cal_checksum` -/
def otsObjCalChecksum (imgIdx : UInt8) (off : Int) (len : ℕ) : ImageProgram Int :=
  if cfg.imageMax < imgIdx.toNat then
    return FileSystem.enoent
  else do
    imageCall (.ram .memset)
    let _ ← imageCall (.readImg imgIdx len off)
    let _ ← imageCall .closeImage
    return 0

/-- `bt_esl_delete_images` -/
def ImageProgram.btEslDeleteImages : ImageProgram Unit := do
  let _ ← imageCall .deleteImgs
  Program.forIdx (fun idx => imageCall (.ram (.setStoredImageSize (UInt8.ofNat idx) 0))) cfg.imageMax

/-- `image_size_init` -/
def imageSizeInit : ImageProgram Unit :=
  Program.forIdx (fun idx => do
    let size ← imageCall (.readImgSize (UInt8.ofNat idx))
    imageCall (.ram (.setStoredImageSize (UInt8.ofNat idx) (UInt32.ofNat size)))) cfg.imageMax

/-- `ots_storage_init` and `bt_esl_init`, as far as images are concerned. -/
def imageStorageBoot : FlashProgram Unit := do
  match cfg.build with
  | .nvs => pure ()
  | .lfs => Lfs.otsStorageInit cfg.imageMax
  (imageSizeInit cfg).expand (impl cfg)

/-! ## Display -/

/-- Where the three drivers differ. -/
structure DisplayDriver where
  /-- `open_image_from_storage` before the header is read. -/
  opensImage : Bool
  /-- `goto end` after a bad header, instead of `return`. -/
  closesOnReject : Bool
  /-- `goto end` after a failed `display_write`, instead of `return`. -/
  closesOnWriteError : Bool
  /-- `display_write` reports an error. -/
  reportsWrites : Bool
  /-- The last statement returns `err`, and not 0. -/
  returnsErr : Bool
  /-- `gImage_1`, shown on all displays but the first. -/
  builtIn : Option Mem

/-- `epd_shield_display.c` -/
def epdShieldDisplay : DisplayDriver where
  opensImage := true
  closesOnReject := true
  closesOnWriteError := true
  reportsWrites := true
  returnsErr := true
  builtIn := none

/-- `epd_shield_uc81xx_display.c` -/
def epdShieldUc81xxDisplay : DisplayDriver where
  opensImage := true
  closesOnReject := true
  closesOnWriteError := false
  reportsWrites := true
  returnsErr := false
  builtIn := none

/-- `epd_display.c` -/
def epdDisplay (gImage1 : Mem) : DisplayDriver where
  opensImage := false
  closesOnReject := false
  closesOnWriteError := true
  reportsWrites := false
  returnsErr := false
  builtIn := some gImage1

/-- One run of `display_control`: its arguments, the resolution of the panel and the results of the
calls of `display_write`, in their order. -/
structure DisplayRun where
  dispIdx : UInt8
  imgIdx : UInt8
  xResolution : UInt16
  yResolution : UInt16
  writeResult : ℕ → Int

/-- `sizeof(struct waveshare_gray_head)` -/
def grayHeadSize : ℕ := 6

/-- How the chunk loop ends. -/
inductive LoopEnd
  | finished (err : Int)
  | writeError (err : Int)
  | outOfFuel
  deriving DecidableEq, Repr

variable (d : DisplayDriver) (r : DisplayRun)

/-- One chunk into the buffer. -/
def displayChunk (chunkSize curPos : UInt32) (err : Int) : ImageProgram Int :=
  let off := curPos + UInt32.ofNat grayHeadSize
  match d.builtIn with
  | none => imageCall (.readImg r.imgIdx chunkSize.toNat off.toInt32.toInt)
  | some gImage1 =>
      if r.dispIdx = 0 then
        imageCall (.readImg r.imgIdx chunkSize.toNat off.toInt32.toInt)
      else do
        imageCall (.ram (.memcpy (gImage1.read off.toNat chunkSize.toNat) 0))
        return err

/-- The loop of `display_control` in a LittleFS build: `n` counts the calls of `display_write`. -/
def displayLoop (width : UInt16) :
    ℕ → ℕ → UInt32 → UInt32 → UInt32 → UInt16 → UInt16 → Int → ImageProgram LoopEnd
  | 0, _, _, _, _, _, _, _ => return .outOfFuel
  | fuel + 1, n, imgSize, chunkSize, curPos, height, curY, err =>
      if imgSize = 0 then
        return .finished err
      else do
        let err ← displayChunk d r chunkSize curPos err
        imageCall (.ram (.displayWrite curY height 0 chunkSize.toNat))
        let err := if d.reportsWrites then r.writeResult n else err
        if d.reportsWrites ∧ err ≠ 0 then
          return .writeError err
        else
          let imgSize := imgSize - chunkSize
          let curPos := curPos + chunkSize
          let last := imgSize < chunkSize
          let chunkSize := if last then imgSize else chunkSize
          let height := if last then (chunkSize * 8 / width.toUInt32).toUInt16 else height
          displayLoop width fuel (n + 1) imgSize chunkSize curPos height
            (curPos * 8 / width.toUInt32).toUInt16 err

/-- No size of 32 bits needs more turns. -/
def displayFuel : ℕ := 2 ^ 32 + 2

/-- The label `end`. -/
def displayEnd (err : Int) : ImageProgram Int := do
  let _ ← imageCall .closeImage
  return if d.returnsErr then err else 0

/-- `display_control` from the header on; `imgSize` is the size in storage. -/
def displayFile (imgSize : ℕ) : ImageProgram Int := do
  let err ← imageCall (.readImg r.imgIdx grayHeadSize 0)
  let head ← imageCall (.ram (.peek grayHeadSize))
  let w := sysGetLe16 (Mem.ofBytes head fun _ => 0) 2
  let h := sysGetLe16 (Mem.ofBytes head fun _ => 0) 4
  if imgSize < w.toNat * h.toNat / 8 ∨ w = 0 ∨ h = 0 ∨ r.xResolution < w ∨ r.yResolution < h then
    if d.closesOnReject then displayEnd d FileSystem.einval else return FileSystem.einval
  else
    match cfg.build with
    | .nvs =>
        let err ← imageCall (.readImg r.imgIdx imgSize 0)
        imageCall (.ram (.displayWrite 0 h grayHeadSize (w.toNat * h.toNat / 8)))
        displayEnd d (if d.reportsWrites then r.writeResult 0 else err)
    | .lfs =>
        let size := UInt32.ofNat imgSize - UInt32.ofNat grayHeadSize
        match ← displayLoop d r w displayFuel 0 size w.toUInt32 0 8 0 err with
        | .finished err => displayEnd d err
        | .writeError err => if d.closesOnWriteError then displayEnd d err else return err
        | .outOfFuel => return err

/-- `display_control` -/
def displayControl : ImageProgram Int := do
  imageCall (.ram .memset)
  let imgSize ← imageCall (.readImgSize r.imgIdx)
  if d.opensImage then
    let _ ← imageCall (.openImage r.imgIdx)
    displayFile cfg d r imgSize
  else
    displayFile cfg d r imgSize

/-! ## Operations -/

/-- What reaches the image store from outside. -/
inductive ImageOp
  | select (imgIdx : UInt8)
  | write (imgIdx : UInt8) (data : List UInt8) (off : Int) (rem : ℕ)
  | read (imgIdx : UInt8) (data : Bool) (len : ℕ) (off : Int)
  | checksum (imgIdx : UInt8) (off : Int) (len : ℕ)
  | display (r : DisplayRun)
  | close

/-- The function called. -/
def ImageOp.program : ImageOp → ImageProgram Unit
  | .select imgIdx => otsObjSelected imgIdx
  | .write imgIdx data off rem => do
      let _ ← otsObjWrite cfg imgIdx data off rem
  | .read imgIdx data len off => do
      let _ ← otsObjRead imgIdx data len off
  | .checksum imgIdx off len => do
      let _ ← otsObjCalChecksum cfg imgIdx off len
  | .display r => do
      let _ ← displayControl cfg d r
  | .close => do
      let _ ← imageCall .closeImage

/-! ## The calls of a function -/

section Uses

variable {cfg} {d} {r} {U : ImageCall → Prop} {imgIdx : UInt8}

/-- Reading an image, and what happens in RAM, is among the calls of `U`. -/
structure CallsOn (U : ImageCall → Prop) (imgIdx : UInt8) : Prop where
  ram : ∀ c, U (.ram c)
  close : U .closeImage
  readImg : ∀ len off, U (.readImg imgIdx len off)

lemma uses_bufferImg (h : CallsOn U imgIdx) {data : List UInt8} {off : Int} :
    (bufferImg cfg data off).Uses U :=
  Program.Uses.ite trivial ⟨h.ram _, fun _ => trivial⟩

lemma uses_writeRetry {len : ℕ} {off : Int} (hwrite : U (.writeImg imgIdx len off)) {n : ℕ} :
    (writeRetry imgIdx len off n).Uses U := by
  induction n with
  | zero => trivial
  | succ n ih =>
      refine ⟨hwrite, fun rc => ?_⟩
      exact Program.Uses.ite ih trivial

lemma uses_otsObjWrite (h : CallsOn U imgIdx) (hwrite : ∀ len off, U (.writeImg imgIdx len off))
    {data : List UInt8} {off : Int} {rem : ℕ} : (otsObjWrite cfg imgIdx data off rem).Uses U := by
  cases hbuild : cfg.build with
  | nvs =>
      simp only [otsObjWrite, hbuild]
      refine (uses_bufferImg h).bind fun _ => ?_
      exact Program.Uses.ite ⟨h.ram _, fun _ => ⟨hwrite _ _, fun _ => trivial⟩⟩ trivial
  | lfs =>
      simp only [otsObjWrite, hbuild]
      refine ⟨h.ram _, fun _ => (uses_writeRetry (hwrite _ _)).bind fun _ => ⟨h.close, fun _ => ?_⟩⟩
      exact Program.Uses.ite ⟨h.ram _, fun _ => trivial⟩ trivial

lemma uses_otsObjRead (h : CallsOn U imgIdx) {data : Bool} {len : ℕ} {off : Int} :
    (otsObjRead imgIdx data len off).Uses U := by
  cases data with
  | true => exact ⟨h.ram _, fun _ => ⟨h.readImg _ _, fun _ => trivial⟩⟩
  | false => trivial

lemma uses_otsObjCalChecksum (h : CallsOn U imgIdx) {off : Int} {len : ℕ} :
    (otsObjCalChecksum cfg imgIdx off len).Uses U := by
  refine Program.Uses.ite trivial ?_
  exact ⟨h.ram _, fun _ => ⟨h.readImg _ _, fun _ => ⟨h.close, fun _ => trivial⟩⟩⟩

lemma uses_displayEnd (h : CallsOn U imgIdx) {err : Int} : (displayEnd d err).Uses U :=
  ⟨h.close, fun _ => trivial⟩

lemma uses_displayChunk (h : CallsOn U r.imgIdx) {chunkSize curPos : UInt32} {err : Int} :
    (displayChunk d r chunkSize curPos err).Uses U := by
  simp only [displayChunk]
  split
  · exact ⟨h.readImg _ _, fun _ => trivial⟩
  · exact Program.Uses.ite ⟨h.readImg _ _, fun _ => trivial⟩ ⟨h.ram _, fun _ => trivial⟩

lemma uses_displayLoop (h : CallsOn U r.imgIdx) {width : UInt16} {fuel n : ℕ}
    {imgSize chunkSize curPos : UInt32} {height curY : UInt16} {err : Int} :
    (displayLoop d r width fuel n imgSize chunkSize curPos height curY err).Uses U := by
  induction fuel generalizing n imgSize chunkSize curPos height curY err with
  | zero => trivial
  | succ fuel ih =>
      refine Program.Uses.ite trivial ?_
      refine (uses_displayChunk h).bind fun err => ⟨h.ram _, fun _ => ?_⟩
      exact Program.Uses.ite trivial ih

lemma uses_displayFile (h : CallsOn U r.imgIdx) {imgSize : ℕ} :
    (displayFile cfg d r imgSize).Uses U := by
  refine ⟨h.readImg _ _, fun err => ⟨h.ram _, fun head => ?_⟩⟩
  refine Program.Uses.ite (Program.Uses.ite (uses_displayEnd h) trivial) ?_
  cases cfg.build with
  | nvs =>
      exact ⟨h.readImg _ _, fun _ => ⟨h.ram _, fun _ => uses_displayEnd h⟩⟩
  | lfs =>
      refine (uses_displayLoop h).bind fun ending => ?_
      cases ending with
      | finished err => exact uses_displayEnd h
      | writeError err => exact Program.Uses.ite (uses_displayEnd h) trivial
      | outOfFuel => trivial

end Uses

end NrfEsl
