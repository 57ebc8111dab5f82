import Mathlib.Algebra.GroupWithZero.Nat
import NrfEsl.Lib.Bitmap

/-!
# The paint library of the tag

`paint.c` draws into a frame of one bit a pixel, or of two planes for black and red.  Points are rotated
and flipped one by one; a rectangle is rotated as a whole and drawn row by row, with whole bytes where it
can.  With `band_height` the frame holds some rows of the panel only, from `band_y_start` on.

All numbers are `uint32_t`, and so is the index into the buffers; a buffer is the memory from its first
byte on.  `bandRow` is the beginning that `paint_DrawPoint` and `drawHline` have in common.
A loop whose counter comes round ends never: `none`.
-/

namespace NrfEsl

open Bitmap

inductive PaintDirection
  | d0 | d90 | d180 | d270
  deriving DecidableEq, Repr

inductive PaintScanMode
  | mode1 | mode2
  deriving DecidableEq, Repr

inductive PaintColor
  | white | black | red
  deriving DecidableEq, Repr

/-- `CONFIG_PAINT_COLORS` is 3, `CONFIG_PAINT_WB_ON` and `CONFIG_PAINT_RW_ON` are 1, and
`CONFIG_PAINT_MSB_FIRST`. -/
structure PaintConfig where
  colors3 : Bool
  wbOn : Bool
  rwOn : Bool
  msbFirst : Bool
  deriving DecidableEq, Repr

/-- `wb_buffer` and `rw_buffer` -/
inductive Plane
  | wb | rw
  deriving DecidableEq, Repr

/-- The buffers. -/
abbrev Frame := Canvas Plane UInt32

/-- `paint_obj_t` without its buffers. -/
structure PaintObj where
  scanmode : PaintScanMode
  direction : PaintDirection
  width : UInt32
  height : UInt32
  xEnd : UInt32
  yEnd : UInt32
  bufferSize : UInt32
  bandHeight : UInt32
  bandYStart : UInt32
  deriving DecidableEq, Repr

namespace PaintObj

/-- `paint_SetDirection` -/
def setDirection (direction : PaintDirection) (o : PaintObj) : PaintObj :=
  match direction with
  | .d90 | .d270 => { o with direction := direction, xEnd := o.height, yEnd := o.width }
  | .d0 | .d180 => { o with direction := direction, xEnd := o.width, yEnd := o.height }

section

variable (direction : PaintDirection) (o : PaintObj)

@[simp] lemma setDirection_direction : (o.setDirection direction).direction = direction := by
  cases direction <;> rfl

@[simp] lemma setDirection_scanmode : (o.setDirection direction).scanmode = o.scanmode := by
  cases direction <;> rfl

@[simp] lemma setDirection_width : (o.setDirection direction).width = o.width := by
  cases direction <;> rfl

@[simp] lemma setDirection_height : (o.setDirection direction).height = o.height := by
  cases direction <;> rfl

@[simp] lemma setDirection_bufferSize : (o.setDirection direction).bufferSize = o.bufferSize := by
  cases direction <;> rfl

@[simp] lemma setDirection_bandHeight : (o.setDirection direction).bandHeight = o.bandHeight := by
  cases direction <;> rfl

@[simp] lemma setDirection_bandYStart : (o.setDirection direction).bandYStart = o.bandYStart := by
  cases direction <;> rfl

end

/-- `paint_SetBand` -/
def setBand (yStart : UInt32) (o : PaintObj) : PaintObj := { o with bandYStart := yStart }

/-- `paint_Init`; its `switch` is that of `paint_SetDirection`. -/
def init (o : PaintObj) : PaintObj :=
  { o.setDirection o.direction with
    bandYStart := 0
    bufferSize := (if o.bandHeight ≠ 0 then o.bandHeight else o.height) * (o.width / 8) }

/-- Where a point of the drawing area is on the panel. -/
def toPanel (o : PaintObj) (x y : UInt32) : UInt32 × UInt32 :=
  match o.direction with
  | .d90 => (o.width - y - 1, x)
  | .d180 => (o.width - x - 1, o.height - y - 1)
  | .d270 => (y, o.height - x - 1)
  | .d0 => (x, y)

/-- The row of the buffer for a row of the panel, if it is one of the band. -/
def bandRow (o : PaintObj) (y : UInt32) : Option UInt32 :=
  let y := if o.scanmode = .mode2 then o.height - y - 1 else y
  if o.bandHeight ≠ 0 then
    if y < o.bandYStart ∨ y ≥ o.bandYStart + o.bandHeight then none else some (y - o.bandYStart)
  else some y

/-- `y * (p_Paint->width / 8) + x / 8` -/
def byteIndex (o : PaintObj) (x y : UInt32) : UInt32 := y * (o.width / 8) + x / 8

end PaintObj

/-- The bit of a pixel in its byte. -/
def PaintConfig.mask (cfg : PaintConfig) (x : UInt32) : UInt8 :=
  if cfg.msbFirst then 1 <<< (7 - x % 8).toUInt8 else 1 <<< (x % 8).toUInt8

/-- The macros of both planes, and the choice of `setcolor` among them.  Two colours have one plane, and
red is white there. -/
def PaintConfig.pen (cfg : PaintConfig) (color : PaintColor) : Pen Plane
  | .wb => some (if color = .black then cfg.wbOn else !cfg.wbOn)
  | .rw => if cfg.colors3 then some (if color = .red then cfg.rwOn else !cfg.rwOn) else none

variable (cfg : PaintConfig) (o : PaintObj) (color : PaintColor)

/-- `setcolor` -/
def setcolor (index : UInt32) (mask : UInt8) (m : Frame) : Frame := stroke (cfg.pen color) index mask m

/-- `paint_Fill` -/
def paintFill (m : Frame) : Frame := fun k i =>
  match cfg.pen color k with
  | some on => if i < o.bufferSize then (if on then 0xff else 0) else m k i
  | none => m k i

/-- The byte and the bit that `paint_DrawPoint` writes. -/
def pointTarget (x y : UInt32) : Option (UInt32 × UInt8) :=
  if x ≥ o.xEnd ∨ y ≥ o.yEnd then none
  else
    let p := o.toPanel x y
    (o.bandRow p.2).map fun row => (o.byteIndex p.1 row, cfg.mask p.1)

/-- `paint_DrawPoint` -/
def paintDrawPoint (x y : UInt32) (m : Frame) : Frame :=
  match pointTarget cfg o x y with
  | some t => setcolor cfg color t.1 t.2 m
  | none => m

/-! ## Rectangles -/

/-- More turns than a counter of 32 bits has values. -/
def paintFuel : ℕ := 2 ^ 32 + 1

/-- The first loop of `drawHline`, on the bits of the first byte.  It ends with a counter, or returns from
the function. -/
def hlineHead (x w row : UInt32) : ℕ → UInt32 → Frame → Option (Frame × Option UInt32)
  | 0, _, _ => none
  | fuel + 1, i, m =>
      if i < 8 + (x &&& ~~~ 7) then
        if i ≥ x + w then some (m, none)
        else hlineHead x w row fuel (i + 1) (setcolor cfg color (o.byteIndex x row) (cfg.mask i) m)
      else some (m, some i)

/-- The second loop, on whole bytes. -/
def hlineBytes (x w row : UInt32) : ℕ → UInt32 → Frame → Option (Frame × UInt32)
  | 0, _, _ => none
  | fuel + 1, i, m =>
      if i + 8 < x + w then
        hlineBytes x w row fuel (i + 8) (setcolor cfg color (o.byteIndex i row) 0xff m)
      else some (m, i)

/-- The last loop, on the bits of the last byte. -/
def hlineTail (x w row : UInt32) : ℕ → UInt32 → Frame → Option Frame
  | 0, _, _ => none
  | fuel + 1, i, m =>
      if i < x + w then
        hlineTail x w row fuel (i + 1) (setcolor cfg color (o.byteIndex i row) (cfg.mask i) m)
      else some m

/-- `drawHline` -/
def drawHline (x y w : UInt32) (m : Frame) : Option Frame :=
  match o.bandRow y with
  | none => some m
  | some row => do
      let (m, i?) ← hlineHead cfg o color x w row paintFuel x m
      match i? with
      | none => some m
      | some i => do
          let (m, i) ← hlineBytes cfg o color x w row paintFuel i m
          hlineTail cfg o color x w row paintFuel i m

/-- `paint_rect_t` -/
structure PaintRect where
  x : UInt32
  y : UInt32
  width : UInt32
  height : UInt32
  deriving DecidableEq, Repr

/-- The rectangle on the panel, as `paint_FillRect` finds it. -/
def PaintObj.toPanelRect (o : PaintObj) (r : PaintRect) : PaintRect :=
  match o.direction with
  | .d90 => ⟨o.width - (r.y + r.width), r.x, r.height, r.width⟩
  | .d180 => ⟨o.width - (r.x + r.width), o.height - (r.y + r.height), r.width, r.height⟩
  | .d270 => ⟨r.y, o.height - (r.x + r.width), r.height, r.width⟩
  | .d0 => r

/-- The loop of `paint_FillRect`, over the rows. -/
def fillRows (p : PaintRect) : ℕ → UInt32 → Frame → Option Frame
  | 0, _, _ => none
  | fuel + 1, i, m =>
      if i < p.y + p.height then
        (drawHline cfg o color p.x i p.width m).bind (fillRows p fuel (i + 1))
      else some m

/-- `paint_FillRect` -/
def paintFillRect (r : PaintRect) (m : Frame) : Option Frame :=
  if r.x + r.width > o.xEnd ∨ r.y + r.height > o.yEnd then some m
  else fillRows cfg o color (o.toPanelRect r) paintFuel (o.toPanelRect r).y m

/-! ## Text -/

/-- `sFONT`; the table is the memory from its first byte on. -/
structure Font where
  table : ℕ → UInt8
  width : UInt16
  height : UInt16

/-- A row of a character: the frame and `ptr` after `n` columns. -/
def fontRow (font : Font) (x y : Int32) (j : ℕ) : ℕ → Frame × ℕ → Frame × ℕ
  | 0, s => s
  | n + 1, s =>
      let s := fontRow font x y j n s
      let m :=
        if font.table s.2 &&& (0x80 >>> UInt8.ofNat (n % 8)) ≠ 0 then
          paintDrawPoint cfg o color (x + Int32.ofNat n).toUInt32 (y + Int32.ofNat j).toUInt32 s.1
        else s.1
      (m, if n % 8 = 7 then s.2 + 1 else s.2)

/-- The first `n` rows of a character. -/
def fontRows (font : Font) (x y : Int32) : ℕ → Frame × ℕ → Frame × ℕ
  | 0, s => s
  | n + 1, s =>
      let s := fontRow cfg o color font x y n font.width.toNat (fontRows font x y n s)
      (s.1, if font.width.toNat % 8 ≠ 0 then s.2 + 1 else s.2)

/-- `paint_DrawFont`.  A `char` is unsigned here; the sums with `int` are compared as `uint32_t`. -/
def paintDrawFont (c : UInt8) (font : Font) (x y : Int32) (m : Frame) : Frame :=
  if (x + Int32.ofNat font.width.toNat).toUInt32 > o.xEnd
      ∨ (y + Int32.ofNat font.height.toNat).toUInt32 > o.yEnd then m
  else
    let charOffset := (c - 0x20).toNat * font.height.toNat * ((font.width.toNat + 7) / 8)
    (fontRows cfg o color font x y font.height.toNat (m, charOffset)).1

/-- `paint_DrawString`, from a character on.  The loop is a `do … while`: of an empty text the
terminating zero is drawn. -/
def paintDrawString (font : Font) : List UInt8 → Int32 → Int32 → Frame → Frame
  | [], x, y, m =>
      if (x + Int32.ofNat font.width.toNat).toUInt32 ≤ o.xEnd then
        paintDrawFont cfg o color 0 font x y m
      else m
  | c :: s, x, y, m =>
      if (x + Int32.ofNat font.width.toNat).toUInt32 ≤ o.xEnd then
        let m := paintDrawFont cfg o color c font x y m
        if s = [] then m
        else paintDrawString font s (x + Int32.ofNat font.width.toNat) y m
      else m

end NrfEsl
