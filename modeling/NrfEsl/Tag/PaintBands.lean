import NrfEsl.Tag.Paint

/-!
# Drawing band by band

On the UC81xx shields the buffer has room for some rows only.  `display_update_paint` fills and draws it
anew for each band of the panel, and writes the rows of the band with `display_write`.

`displayBands` is its loop, over any calls of the paint library; `displayUpdatePaint` makes those for the
texts of `paint_cmds`.  `band_y` is a `uint16_t`.  Sums and products with it are of type `int`: from
2 ^ 31 on they are undefined, `none`, and so is a loop that does not end.
-/

namespace NrfEsl

open Bitmap

/-- The calls that draw. -/
inductive PaintCall
  | point (color : PaintColor) (x y : UInt32)
  | string (color : PaintColor) (font : Font) (s : List UInt8) (x y : Int32)
  | rect (color : PaintColor) (r : PaintRect)

variable (cfg : PaintConfig) (o : PaintObj)

def drawCall : PaintCall → Frame → Option Frame
  | .point color x y, m => some (paintDrawPoint cfg o color x y m)
  | .string color font s x y, m => some (paintDrawString cfg o color font s x y m)
  | .rect color r, m => paintFillRect cfg o color r m

/-- Calls one after the other. -/
def drawCalls : List PaintCall → Frame → Option Frame
  | [], m => some m
  | c :: cs, m => (drawCall cfg o c m).bind (drawCalls cs)

/-- The object of `display_init`, whose band is `PAINT_BAND_ROWS`; for any mode and direction. -/
def displayPaintObj (scanmode : PaintScanMode) (direction : PaintDirection) (width height : UInt16)
    (bandRows : UInt32) : PaintObj :=
  PaintObj.init ⟨scanmode, direction, width.toUInt32, height.toUInt32, 0, 0, 0, bandRows, 0⟩

/-- A call of `display_write`: the row, and from the descriptor the number of rows and as many bytes of
`wb_data` as `buf_size` says. -/
structure BandWrite where
  y : UInt16
  rows : UInt16
  bytes : List UInt8
  deriving DecidableEq, Repr

/-- The first bytes of `wb_data`. -/
def wbBytes (n : ℕ) (m : Frame) : List UInt8 := (List.range n).map fun i => m .wb (UInt32.ofNat i)

/-- The rows of the band at `bandY`. -/
def bandRowsAt (height bandY : UInt16) (bandRows : UInt32) : UInt16 :=
  if bandY.toNat + bandRows.toNat ≤ height.toNat then bandRows.toUInt16 else height - bandY

/-- The loop over the bands: the writes, and the result of the last one. -/
def displayBands (calls : List PaintCall) (width height : UInt16) (write : BandWrite → Int32) :
    ℕ → UInt16 → Frame → Option (List BandWrite × Int32)
  | 0, _, _ => none
  | fuel + 1, bandY, m =>
      if bandY < height then
        if bandY.toNat + o.bandHeight.toNat ≥ 2 ^ 31 then none
        else
          let rows := bandRowsAt height bandY o.bandHeight
          let band := o.setBand bandY.toUInt32
          (drawCalls cfg band calls (paintFill cfg band .white m)).bind fun m =>
            if width.toNat * rows.toNat ≥ 2 ^ 31 then none
            else
              let t : BandWrite := ⟨bandY, rows, wbBytes (width.toNat * rows.toNat / 8) m⟩
              if write t ≠ 0 then some ([t], write t)
              else
                (displayBands calls width height write fuel (bandY + o.bandHeight.toUInt16) m).map
                  fun r => (t :: r.1, r.2)
      else some ([], 0)

/-- More turns than `band_y` has values. -/
def bandFuel : ℕ := 2 ^ 16 + 1

/-- An entry of `paint_cmds`. -/
structure PaintCmd where
  text : List UInt8
  x : UInt16
  y : UInt16

/-- The call of `paint_DrawString` for an entry. -/
def PaintCmd.call (font16 : Font) (c : PaintCmd) : PaintCall :=
  .string .black font16 c.text (Int32.ofNat c.x.toNat) (Int32.ofNat c.y.toNat)

/-- `display_update_paint`, without the power and the blanking of the panel. -/
def displayUpdatePaint (font16 : Font) (paintCmds : List PaintCmd) (width height : UInt16)
    (write : BandWrite → Int32) (m : Frame) : Option (List BandWrite × Int32) :=
  displayBands cfg o (paintCmds.map (PaintCmd.call font16)) width height write bandFuel 0 m

end NrfEsl
