import NrfEsl.RectangleFill
import NrfEsl.Tag.PaintBands

/-!
# Bands against the whole panel

`display_update_paint` draws the same calls once for each band, into a buffer that has the rows of the
band.  With `band_height` 0 they are drawn once, into a buffer with all rows.

* **The relation** `SliceOf`: the rows of the band are the same in both buffers.  Filling establishes it,
  and each call keeps it: points and rectangles because they paint the same pixels (`Painted.agree`),
  texts because they are points.
* **The loop** writes one slice after the other, as long as its counter of 16 bits does not come round.

`rendersFull_iff` is for which panels and bands the rows that are written are the whole buffer.
-/

namespace NrfEsl

open Bitmap

/-! ## Specification -/

/-- A rectangle that is on the panel after it has been rotated; other calls may be anywhere. -/
def PaintCall.OnPanel (o : PaintObj) : PaintCall → Prop
  | .rect _ r =>
      (o.toPanelRect r).x.toNat + (o.toPanelRect r).width.toNat ≤ o.width.toNat
        ∧ (o.toPanelRect r).y.toNat + (o.toPanelRect r).height.toNat ≤ o.height.toNat
  | _ => True

/-- For any calls, and any contents of the memory before: the loop ends, it writes each row of the panel
once and in order, and the bytes it writes are those of the buffer without bands. -/
def RendersFull (cfg : PaintConfig) (scanmode : PaintScanMode) (direction : PaintDirection)
    (width height : UInt16) (bandRows : UInt32) : Prop :=
  let band := displayPaintObj scanmode direction width height bandRows
  let full := displayPaintObj scanmode direction width height 0
  ∀ calls : List PaintCall, (∀ c ∈ calls, c.OnPanel full) →
    ∀ write : BandWrite → Int32, (∀ t, write t = 0) → ∀ m₀ m₁ : Frame,
      ∃ writes m, displayBands cfg band calls width height write bandFuel 0 m₀ = some (writes, 0)
        ∧ drawCalls cfg full calls (paintFill cfg full .white m₁) = some m
        ∧ (writes.flatMap fun t => List.range' t.y.toNat t.rows.toNat) = List.range height.toNat
        ∧ writes.flatMap BandWrite.bytes = wbBytes (height.toNat * (width.toNat / 8)) m

/-! ## The object -/

section Object

variable (scanmode : PaintScanMode) (direction : PaintDirection) (width height : UInt16)
  (bandRows : UInt32)

@[simp] lemma displayPaintObj_scanmode :
    (displayPaintObj scanmode direction width height bandRows).scanmode = scanmode := by
  simp [displayPaintObj, PaintObj.init]

@[simp] lemma displayPaintObj_direction :
    (displayPaintObj scanmode direction width height bandRows).direction = direction := by
  simp [displayPaintObj, PaintObj.init]

@[simp] lemma displayPaintObj_width :
    (displayPaintObj scanmode direction width height bandRows).width = width.toUInt32 := by
  simp [displayPaintObj, PaintObj.init]

@[simp] lemma displayPaintObj_height :
    (displayPaintObj scanmode direction width height bandRows).height = height.toUInt32 := by
  simp [displayPaintObj, PaintObj.init]

@[simp] lemma displayPaintObj_bandHeight :
    (displayPaintObj scanmode direction width height bandRows).bandHeight = bandRows := by
  simp [displayPaintObj, PaintObj.init]

@[simp] lemma displayPaintObj_bandYStart :
    (displayPaintObj scanmode direction width height bandRows).bandYStart = 0 := rfl

@[simp] lemma displayPaintObj_bufferSize :
    (displayPaintObj scanmode direction width height bandRows).bufferSize
      = (if bandRows ≠ 0 then bandRows else height.toUInt32) * (width.toUInt32 / 8) := by
  simp [displayPaintObj, PaintObj.init]

end Object

/-- Two objects that differ in the band only. -/
structure SamePanel (o o' : PaintObj) : Prop where
  scanmode : o.scanmode = o'.scanmode
  direction : o.direction = o'.direction
  width : o.width = o'.width
  height : o.height = o'.height
  xEnd : o.xEnd = o'.xEnd
  yEnd : o.yEnd = o'.yEnd

section SamePanel

variable {b f : PaintObj}

lemma SamePanel.inArea (h : SamePanel b f) {x y : ℕ} : InArea b x y ↔ InArea f x y := by
  unfold InArea
  rw [h.direction, h.width, h.height]

lemma SamePanel.flipRow (h : SamePanel b f) (row : ℕ) : flipRow b row = flipRow f row := by
  unfold NrfEsl.flipRow
  rw [h.scanmode, h.height]

lemma SamePanel.panelPoint (h : SamePanel b f) (x y : ℕ) : panelPoint b x y = panelPoint f x y := by
  unfold NrfEsl.panelPoint
  simp only [h.direction, h.width, h.height, h.flipRow]

lemma SamePanel.toPanelRect (h : SamePanel b f) (r : PaintRect) :
    b.toPanelRect r = f.toPanelRect r := by
  unfold PaintObj.toPanelRect
  simp only [h.direction, h.width, h.height]

end SamePanel

lemma samePanel_setBand (scanmode : PaintScanMode) (direction : PaintDirection)
    (width height : UInt16) (bandRows y : UInt32) :
    SamePanel ((displayPaintObj scanmode direction width height bandRows).setBand y)
      (displayPaintObj scanmode direction width height 0) := by
  cases direction <;> exact ⟨rfl, rfl, rfl, rfl, rfl, rfl⟩

lemma prepared_displayPaintObj (scanmode : PaintScanMode) (direction : PaintDirection)
    (width height : UInt16) (bandRows : UInt32) :
    (displayPaintObj scanmode direction width height bandRows).Prepared := by
  constructor
  · cases direction <;> exact ⟨rfl, rfl⟩
  · cases direction <;> rfl

lemma PaintObj.Prepared.setBand {o : PaintObj} (h : o.Prepared) (y : UInt32) :
    (o.setBand y).Prepared := ⟨h.area, h.bufferSize⟩

/-! ## A band and the panel -/

/-- The band `b` is some rows of `f`: `n` of them from `y` on are on the panel, and its rows are whole
bytes. -/
structure BandOf (b f : PaintObj) (y n : ℕ) : Prop where
  same : SamePanel b f
  band : b.Prepared
  full : f.Prepared
  size : f.PanelSize
  noBand : f.bandHeight = 0
  hasBand : b.bandHeight ≠ 0
  start : b.bandYStart.toNat = y
  rows : n = min b.bandHeight.toNat (f.height.toNat - y)
  limit : y + b.bandHeight.toNat < 2 ^ 32
  onPanel : y < f.height.toNat

/-- Bytes of the same row and column, `n` rows of `stride` bytes from row `y` on. -/
def SameByte (stride y n : ℕ) (i j : UInt32) : Prop :=
  ∃ t < n * stride, i = UInt32.ofNat t ∧ j = UInt32.ofNat (y * stride + t)

/-- **The rows of the band are those of the panel.** -/
def SliceOf (f : PaintObj) (y n : ℕ) (m m' : Frame) : Prop :=
  Agree (SameByte (f.width.toNat / 8) y n) .wb m m'

section Band

variable {cfg : PaintConfig} {b f : PaintObj} {y n : ℕ}

lemma BandOf.keeps_iff (h : BandOf b f y n) {row : ℕ} :
    b.Keeps row ↔ y ≤ row ∧ row < y + b.bandHeight.toNat := by
  have hsum := toNat_add_of_lt (i := b.bandYStart) (j := b.bandHeight) (by
    rw [h.start]
    exact h.limit)
  rw [PaintObj.Keeps, or_iff_right h.hasBand, hsum, h.start]

lemma BandOf.firstRow (h : BandOf b f y n) : b.firstRow = y := by
  rw [PaintObj.firstRow, if_neg h.hasBand, h.start]

lemma BandOf.firstRow_full (h : BandOf b f y n) : f.firstRow = 0 := by
  rw [PaintObj.firstRow, if_pos h.noBand]

/-- The bytes of the panel have numbers of 32 bits. -/
lemma BandOf.mul_lt (h : BandOf b f y n) {row c : ℕ} (hrow : row < f.height.toNat)
    (hc : c < f.width.toNat) :
    row * (f.width.toNat / 8) + c / 8 < 2 ^ 32 := by
  have hwidth := h.size.width
  have hheight := h.size.height
  have hmul : row * (f.width.toNat / 8) ≤ 65535 * 8191 := Nat.mul_le_mul (by omega) (by omega)
  omega

/-- **A pixel** is the same bit of both buffers, where they have the same rows. -/
lemma BandOf.pixelBits_iff (h : BandOf b f y n) {c row : ℕ} (hc : c < f.width.toNat)
    (hrow : row < f.height.toNat) {i j : UInt32} (hij : SameByte (f.width.toNat / 8) y n i j)
    {q : ℕ} : (i, q) ∈ pixelBits cfg b (c, row) ↔ (j, q) ∈ pixelBits cfg f (c, row) := by
  obtain ⟨t, ht, rfl, rfl⟩ := hij
  have hbytes := h.size.bytes
  have hrows := h.rows
  have honPanel := h.onPanel
  have hbig := h.mul_lt hrow hc
  have hend : (y + n) * (f.width.toNat / 8) ≤ f.height.toNat * (f.width.toNat / 8) :=
    Nat.mul_le_mul_right _ (by omega)
  have hall : f.height.toNat * (f.width.toNat / 8) ≤ 65535 * 8191 := by
    have hwidth := h.size.width
    exact Nat.mul_le_mul h.size.height (by omega)
  rw [Nat.add_mul] at hend
  show (b.Keeps row ∧ UInt32.ofNat t = UInt32.ofNat (rowByte (b.width.toNat / 8) c (row - b.firstRow))
      ∧ q = cfg.bitOf c)
    ↔ f.Keeps row ∧ UInt32.ofNat (y * (f.width.toNat / 8) + t)
      = UInt32.ofNat (rowByte (f.width.toNat / 8) c (row - f.firstRow)) ∧ q = cfg.bitOf c
  rw [h.keeps_iff, h.firstRow, h.firstRow_full, h.same.width, rowByte, rowByte, Nat.sub_zero,
    ofNat_inj_of_lt (by omega) hbig]
  constructor
  · rintro ⟨⟨hle, hlt⟩, hbyte, hq⟩
    obtain ⟨d, rfl⟩ := Nat.exists_eq_add_of_le hle
    rw [Nat.add_sub_cancel_left] at hbyte
    rw [Nat.add_mul] at hbig
    rw [ofNat_inj_of_lt (by omega) (by omega)] at hbyte
    refine ⟨.inl h.noBand, ?_, hq⟩
    rw [Nat.add_mul]
    omega
  · rintro ⟨-, hbyte, hq⟩
    -- the row is one of the band
    have hle : y ≤ row := by
      refine Nat.not_lt.mp fun hlt => ?_
      have hmul : (row + 1) * (f.width.toNat / 8) ≤ y * (f.width.toNat / 8) :=
        Nat.mul_le_mul_right _ hlt
      rw [Nat.succ_mul] at hmul
      omega
    obtain ⟨d, rfl⟩ := Nat.exists_eq_add_of_le hle
    rw [Nat.add_mul] at hbyte hbig
    have hd : d < n := by
      refine Nat.not_le.mp fun hge => ?_
      have hmul : n * (f.width.toNat / 8) ≤ d * (f.width.toNat / 8) := Nat.mul_le_mul_right _ hge
      omega
    refine ⟨⟨hle, by omega⟩, ?_, hq⟩
    rw [Nat.add_sub_cancel_left, ofNat_inj_of_lt (by omega) (by omega)]
    omega

/-! ## The calls -/

variable {color : PaintColor} {m m' : Frame}

/-- **A point.** -/
lemma paintDrawPoint_slice (h : BandOf b f y n) (px py : UInt32) (hslice : SliceOf f y n m m') :
    SliceOf f y n (paintDrawPoint cfg b color px py m) (paintDrawPoint cfg f color px py m') := by
  by_cases hin : InArea f px.toNat py.toNat
  · have hin' : InArea b px.toNat py.toNat := h.same.inArea.mpr hin
    obtain ⟨hcol, hrow⟩ := panelPoint_lt hin
    refine (painted_paintDrawPoint cfg color h.band hin' m).agree
      (painted_paintDrawPoint cfg color h.full hin m') (fun i j q hij _ => ?_) hslice
    rw [h.same.panelPoint]
    exact h.pixelBits_iff hcol hrow hij
  · have hin' : ¬ InArea b px.toNat py.toNat := fun hb => hin (h.same.inArea.mp hb)
    rw [paintDrawPoint, paintDrawPoint, pointTarget_of_not_inArea h.full hin,
      pointTarget_of_not_inArea h.band hin']
    exact hslice

/-- **A rectangle** of the panel. -/
lemma paintFillRect_slice (h : BandOf b f y n) {r : PaintRect}
    (hr : (PaintCall.rect color r).OnPanel f) (hslice : SliceOf f y n m m') :
    ∃ m₁ m₁', paintFillRect cfg b color r m = some m₁ ∧ paintFillRect cfg f color r m' = some m₁'
      ∧ SliceOf f y n m₁ m₁' := by
  rw [paintFillRect, paintFillRect, h.same.xEnd, h.same.yEnd, h.same.toPanelRect]
  by_cases hout : r.x + r.width > f.xEnd ∨ r.y + r.height > f.yEnd
  · rw [if_pos hout, if_pos hout]
    exact ⟨m, m', rfl, rfl, hslice⟩
  · rw [if_neg hout, if_neg hout]
    obtain ⟨hcols, hrows⟩ := hr
    have hwidth := h.size.width
    have hrows' : (f.toPanelRect r).y.toNat + (f.toPanelRect r).height.toNat ≤ b.height.toNat := by
      rw [h.same.height]
      exact hrows
    obtain ⟨m₁, hband, hpaint⟩ :=
      painted_fillRows_of_panel cfg color hrows' (by omega) m
    obtain ⟨m₁', hfull, hpaint'⟩ :=
      painted_fillRows_of_panel cfg color hrows (by omega) m'
    refine ⟨m₁, m₁', hband, hfull, hpaint.agree hpaint' (fun i j q hij _ => ?_) hslice⟩
    constructor
    · rintro ⟨row, c, hrow, hc, hq⟩
      rw [h.same.flipRow] at hq
      exact ⟨row, c, hrow, hc, (h.pixelBits_iff (by omega) (flipRow_lt (by omega)) hij).mp hq⟩
    · rintro ⟨row, c, hrow, hc, hq⟩
      refine ⟨row, c, hrow, hc, ?_⟩
      rw [h.same.flipRow]
      exact (h.pixelBits_iff (by omega) (flipRow_lt (by omega)) hij).mpr hq

/-! ### Text

Both runs read the same table and draw the same points, so that a text keeps every relation that a point
keeps. -/

section Text

variable {Rel : Frame → Frame → Prop}

/-- The frames are related, and `ptr` is the same. -/
def InStep (Rel : Frame → Frame → Prop) (s s' : Frame × ℕ) : Prop := Rel s.1 s'.1 ∧ s.2 = s'.2

variable (hpoint : ∀ px py m m', Rel m m' →
  Rel (paintDrawPoint cfg b color px py m) (paintDrawPoint cfg f color px py m'))

include hpoint

lemma fontRow_rel (font : Font) (px py : Int32) (row count : ℕ) {s s' : Frame × ℕ}
    (h : InStep Rel s s') :
    InStep Rel (fontRow cfg b color font px py row count s) (fontRow cfg f color font px py row count s')
      := by
  induction count with
  | zero => exact h
  | succ count ih =>
      obtain ⟨hrel, hptr⟩ := ih
      simp only [fontRow]
      rw [hptr]
      refine ⟨?_, rfl⟩
      dsimp only
      split
      · exact hpoint _ _ _ _ hrel
      · exact hrel

lemma fontRows_rel (font : Font) (px py : Int32) (count : ℕ) {s s' : Frame × ℕ}
    (h : InStep Rel s s') :
    InStep Rel (fontRows cfg b color font px py count s) (fontRows cfg f color font px py count s') := by
  induction count with
  | zero => exact h
  | succ count ih =>
      obtain ⟨hrel, hptr⟩ := fontRow_rel hpoint font px py count font.width.toNat ih
      simp only [fontRows]
      rw [hptr]
      exact ⟨hrel, rfl⟩

variable (hx : b.xEnd = f.xEnd) (hy : b.yEnd = f.yEnd)

include hx hy

lemma paintDrawFont_rel (c : UInt8) (font : Font) (px py : Int32) (h : Rel m m') :
    Rel (paintDrawFont cfg b color c font px py m) (paintDrawFont cfg f color c font px py m') := by
  rw [paintDrawFont, paintDrawFont, hx, hy]
  split
  · exact h
  · have hstart : ∀ ptr, InStep Rel (m, ptr) (m', ptr) := fun _ => ⟨h, rfl⟩
    exact (fontRows_rel hpoint font px py font.height.toNat (hstart _)).1

/-- **A text** keeps what each point keeps. -/
theorem paintDrawString_rel (font : Font) (s : List UInt8) (px py : Int32) (h : Rel m m') :
    Rel (paintDrawString cfg b color font s px py m) (paintDrawString cfg f color font s px py m') := by
  induction s generalizing px m m' with
  | nil =>
      rw [paintDrawString, paintDrawString, hx]
      split
      · exact paintDrawFont_rel hpoint hx hy 0 font px py h
      · exact h
  | cons c s ih =>
      rw [paintDrawString, paintDrawString, hx]
      have hfont := paintDrawFont_rel hpoint hx hy c font px py h
      split
      · dsimp only
        split
        · exact hfont
        · exact ih _ hfont
      · exact h

end Text

/-! ### All calls -/

variable (cfg) in
/-- **A call** keeps the slice. -/
theorem drawCall_slice (h : BandOf b f y n) {c : PaintCall} (hc : c.OnPanel f)
    (hslice : SliceOf f y n m m') :
    ∃ m₁ m₁', drawCall cfg b c m = some m₁ ∧ drawCall cfg f c m' = some m₁'
      ∧ SliceOf f y n m₁ m₁' := by
  cases c with
  | point color px py => exact ⟨_, _, rfl, rfl, paintDrawPoint_slice h px py hslice⟩
  | string color font s px py =>
      exact ⟨_, _, rfl, rfl, paintDrawString_rel (fun px py _ _ => paintDrawPoint_slice h px py)
        h.same.xEnd h.same.yEnd font s px py hslice⟩
  | rect color r => exact paintFillRect_slice h hc hslice

/-- **A sequence of calls** keeps the slice. -/
theorem drawCalls_slice (h : BandOf b f y n) {calls : List PaintCall}
    (hcalls : ∀ c ∈ calls, c.OnPanel f) (hslice : SliceOf f y n m m') :
    ∃ m₁ m₁', drawCalls cfg b calls m = some m₁ ∧ drawCalls cfg f calls m' = some m₁'
      ∧ SliceOf f y n m₁ m₁' := by
  induction calls generalizing m m' with
  | nil => exact ⟨m, m', rfl, rfl, hslice⟩
  | cons c calls ih =>
      obtain ⟨m₁, m₁', hband, hfull, hfirst⟩ :=
        drawCall_slice cfg h (hcalls c List.mem_cons_self) hslice
      obtain ⟨m₂, m₂', hband', hfull', hrest⟩ :=
        ih (fun c' hc' => hcalls c' (List.mem_cons_of_mem c hc')) hfirst
      refine ⟨m₂, m₂', ?_, ?_, hrest⟩
      · rw [drawCalls, hband]
        exact hband'
      · rw [drawCalls, hfull]
        exact hfull'

/-- **Filling** makes the slice, if the buffer of the band has room for its rows. -/
theorem paintFill_slice (h : BandOf b f y n)
    (hroom : n * (f.width.toNat / 8) ≤ b.bufferSize.toNat) (m m' : Frame) :
    SliceOf f y n (paintFill cfg b color m) (paintFill cfg f color m') := by
  rintro i j ⟨t, ht, rfl, rfl⟩
  have hrows := h.rows
  have honPanel := h.onPanel
  have hwidth := h.size.width
  have hend : (y + n) * (f.width.toNat / 8) ≤ f.height.toNat * (f.width.toNat / 8) :=
    Nat.mul_le_mul_right _ (by omega)
  have hall : f.height.toNat * (f.width.toNat / 8) ≤ 65535 * 8191 :=
    Nat.mul_le_mul h.size.height (by omega)
  have hsize : f.bufferSize.toNat = f.height.toNat * (f.width.toNat / 8) := by
    rw [h.full.bufferSize, if_neg (not_not_intro h.noBand), UInt32.toNat_mul, UInt32.toNat_div]
    exact Nat.mod_eq_of_lt (by show f.height.toNat * (f.width.toNat / 8) < _; omega)
  rw [Nat.add_mul] at hend
  have hin : UInt32.ofNat t < b.bufferSize := by
    rw [UInt32.lt_iff_toNat_lt, UInt32.toNat_ofNat', Nat.mod_eq_of_lt (by omega)]
    omega
  have hin' : UInt32.ofNat (y * (f.width.toNat / 8) + t) < f.bufferSize := by
    rw [UInt32.lt_iff_toNat_lt, UInt32.toNat_ofNat', Nat.mod_eq_of_lt (by omega), hsize]
    omega
  simp only [paintFill]
  split
  · rw [if_pos hin, if_pos hin']
  · rename_i hnone
    cases hnone

end Band

/-! ## The loop -/

section Loop

variable {cfg : PaintConfig} {scanmode : PaintScanMode} {direction : PaintDirection}
  {width height : UInt16} {bandRows : UInt32}

lemma panelSize_displayPaintObj (hbytes : width.toNat % 8 = 0) (scanmode : PaintScanMode)
    (direction : PaintDirection) (height : UInt16) (bandRows : UInt32) :
    (displayPaintObj scanmode direction width height bandRows).PanelSize := by
  have hwidth := width.toNat_lt
  have hheight := height.toNat_lt
  constructor
  · rw [displayPaintObj_width, UInt16.toNat_toUInt32]
    omega
  · rw [displayPaintObj_height, UInt16.toNat_toUInt32]
    omega
  · rw [displayPaintObj_width, UInt16.toNat_toUInt32]
    exact hbytes

variable (scanmode direction) in
/-- **A turn of the loop** works on a band of the panel. -/
lemma bandOf_setBand (hbytes : width.toNat % 8 = 0) (hpos : 0 < bandRows.toNat)
    (hint : bandRows.toNat < 2 ^ 31) {bandY : UInt16} (hy : bandY.toNat < height.toNat) :
    BandOf ((displayPaintObj scanmode direction width height bandRows).setBand bandY.toUInt32)
      (displayPaintObj scanmode direction width height 0) bandY.toNat
      (min bandRows.toNat (height.toNat - bandY.toNat)) := by
  have hlt := bandY.toNat_lt
  have hband : ((displayPaintObj scanmode direction width height bandRows).setBand
      bandY.toUInt32).bandHeight = bandRows := displayPaintObj_bandHeight ..
  refine ⟨samePanel_setBand .., (prepared_displayPaintObj ..).setBand _, prepared_displayPaintObj ..,
    panelSize_displayPaintObj hbytes .., displayPaintObj_bandHeight .., ?_, ?_, ?_, ?_, ?_⟩
  · rw [hband]
    rintro rfl
    exact absurd hpos (Nat.lt_irrefl 0)
  · exact UInt16.toNat_toUInt32 bandY
  · rw [hband, displayPaintObj_height, UInt16.toNat_toUInt32]
  · rw [hband]
    omega
  · rw [displayPaintObj_height, UInt16.toNat_toUInt32]
    exact hy

lemma toNat_bandRowsAt (bandRows : UInt32) {bandY : UInt16} (hy : bandY.toNat < height.toNat) :
    (bandRowsAt height bandY bandRows).toNat
      = min bandRows.toNat (height.toNat - bandY.toNat) := by
  have hheight := height.toNat_lt
  unfold bandRowsAt
  split
  · rw [UInt32.toNat_toUInt16, Nat.mod_eq_of_lt (by omega)]
    omega
  · rw [UInt16.toNat_sub_of_le _ _ (UInt16.le_iff_toNat_le.mpr hy.le)]
    omega

lemma toNat_nextBand (bandRows : UInt32) (bandY : UInt16) :
    (bandY + bandRows.toUInt16).toNat = (bandY.toNat + bandRows.toNat) % 2 ^ 16 := by
  rw [UInt16.toNat_add, UInt32.toNat_toUInt16, Nat.add_mod_mod]

/-- `buf_size` is whole rows. -/
lemma mul_rows_div (hbytes : width.toNat % 8 = 0) (rows : ℕ) :
    width.toNat * rows / 8 = rows * (width.toNat / 8) := by
  obtain ⟨k, hk⟩ := Nat.dvd_of_mod_eq_zero hbytes
  rw [hk, Nat.mul_assoc, Nat.mul_div_cancel_left _ (by decide), Nat.mul_div_cancel_left _ (by decide),
    Nat.mul_comm]

/-- Some bytes of the buffer of the panel. -/
def bytesFrom (a n : ℕ) (m : Frame) : List UInt8 :=
  (List.range' a n).map fun i => m .wb (UInt32.ofNat i)

lemma wbBytes_eq (n : ℕ) (m : Frame) : wbBytes n m = bytesFrom 0 n m := by
  rw [wbBytes, bytesFrom, List.range_eq_range']

lemma bytesFrom_append (a n k : ℕ) (m : Frame) :
    bytesFrom a n m ++ bytesFrom (a + n) k m = bytesFrom a (n + k) m := by
  rw [bytesFrom, bytesFrom, bytesFrom, ← List.map_append, List.range'_append_1]

/-- **What a turn writes.** -/
lemma wbBytes_of_slice {f : PaintObj} {y n : ℕ} {m m' : Frame} (h : SliceOf f y n m m') :
    wbBytes (n * (f.width.toNat / 8)) m
      = bytesFrom (y * (f.width.toNat / 8)) (n * (f.width.toNat / 8)) m' := by
  rw [wbBytes, bytesFrom, List.range'_eq_map_range, List.map_map]
  refine List.map_congr_left fun t ht => ?_
  exact h _ _ ⟨t, List.mem_range.mp ht, rfl, rfl⟩

/-- Where the counter stands after the last band, as a number of any size. -/
def lastEnd (height bandRows y : ℕ) : ℕ := y + (height - y + bandRows - 1) / bandRows * bandRows

lemma lastEnd_of_lt {h r y : ℕ} (hlt : y + r < h) (hr : 0 < r) :
    lastEnd h r y = lastEnd h r (y + r) := by
  have hsum : h - y + r - 1 = h - (y + r) + r - 1 + r := by omega
  rw [lastEnd, lastEnd, hsum, Nat.add_div_right _ hr, Nat.succ_mul]
  omega

lemma lastEnd_of_le {h r y : ℕ} (hlt : y < h) (hle : h ≤ y + r) : lastEnd h r y = y + r := by
  have hone : (h - y + r - 1) / r = 1 := Nat.div_eq_of_lt_le (by omega) (by omega)
  rw [lastEnd, hone, Nat.one_mul]

section Turn

variable {o : PaintObj} {calls : List PaintCall} {write : BandWrite → Int32} {fuel : ℕ}
  {bandY : UInt16} {m m' : Frame}

/-- The write of a turn that leaves `m'`. -/
def turnWrite (o : PaintObj) (width height bandY : UInt16) (m' : Frame) : BandWrite :=
  ⟨bandY, bandRowsAt height bandY o.bandHeight,
    wbBytes (width.toNat * (bandRowsAt height bandY o.bandHeight).toNat / 8) m'⟩

lemma displayBands_done (h : ¬ bandY < height) :
    displayBands cfg o calls width height write (fuel + 1) bandY m = some ([], 0) := by
  rw [displayBands, if_neg h]

variable (hwrite : ∀ t, write t = 0)

include hwrite

variable (fuel) in
/-- **A turn** that is defined, and whose write succeeds. -/
lemma displayBands_turn (hy : bandY < height) (hsum : bandY.toNat + o.bandHeight.toNat < 2 ^ 31)
    (hdraw : drawCalls cfg (o.setBand bandY.toUInt32) calls
      (paintFill cfg (o.setBand bandY.toUInt32) .white m) = some m')
    (hmul : width.toNat * (bandRowsAt height bandY o.bandHeight).toNat < 2 ^ 31) :
    displayBands cfg o calls width height write (fuel + 1) bandY m
      = (displayBands cfg o calls width height write fuel (bandY + o.bandHeight.toUInt16) m').map
        fun r => (turnWrite o width height bandY m' :: r.1, r.2) := by
  rw [displayBands, if_pos hy, if_neg (Nat.not_le.mpr hsum)]
  dsimp only
  rw [hdraw, Option.bind_some, if_neg (Nat.not_le.mpr hmul), if_neg (not_not_intro (hwrite _))]
  rfl

/-- **Taken apart**: a turn after which the loop ends. -/
lemma displayBands_some (hy : bandY < height) {writes : List BandWrite} {err : Int32}
    (h : displayBands cfg o calls width height write (fuel + 1) bandY m = some (writes, err)) :
    ∃ m' rest, bandY.toNat + o.bandHeight.toNat < 2 ^ 31
      ∧ drawCalls cfg (o.setBand bandY.toUInt32) calls
        (paintFill cfg (o.setBand bandY.toUInt32) .white m) = some m'
      ∧ width.toNat * (bandRowsAt height bandY o.bandHeight).toNat < 2 ^ 31
      ∧ writes = turnWrite o width height bandY m' :: rest
      ∧ displayBands cfg o calls width height write fuel (bandY + o.bandHeight.toUInt16) m'
        = some (rest, err) := by
  rw [displayBands, if_pos hy] at h
  by_cases hsum : bandY.toNat + o.bandHeight.toNat ≥ 2 ^ 31
  · rw [if_pos hsum] at h
    cases h
  · rw [if_neg hsum] at h
    obtain ⟨m', hdraw, h⟩ := Option.bind_eq_some_iff.mp h
    by_cases hmul : width.toNat * (bandRowsAt height bandY o.bandHeight).toNat ≥ 2 ^ 31
    · rw [if_pos hmul] at h
      cases h
    · rw [if_neg hmul] at h
      dsimp only at h
      rw [if_neg (not_not_intro (hwrite _))] at h
      obtain ⟨r, hrest, heq⟩ := Option.map_eq_some_iff.mp h
      obtain ⟨rfl, rfl⟩ := Prod.mk.injEq .. ▸ heq
      exact ⟨m', r.1, Nat.not_le.mp hsum, hdraw, Nat.not_le.mp hmul, rfl, hrest⟩

end Turn

/-- The rows that are written. -/
def writtenRows (writes : List BandWrite) : List ℕ :=
  writes.flatMap fun t => List.range' t.y.toNat t.rows.toNat

/-- **The next band**: it begins where this one ends, or this one was the last. -/
lemma nextBand_cases (hpos : 0 < bandRows.toNat) {bandY : UInt16} (hy : bandY.toNat < height.toNat)
    (hends : height.toNat ≤ lastEnd height.toNat bandRows.toNat bandY.toNat % 2 ^ 16) :
    ((bandY + bandRows.toUInt16).toNat
          = bandY.toNat + min bandRows.toNat (height.toNat - bandY.toNat)
        ∨ height.toNat - (bandY + bandRows.toUInt16).toNat = 0
          ∧ min bandRows.toNat (height.toNat - bandY.toNat) = height.toNat - bandY.toNat)
      ∧ ((bandY + bandRows.toUInt16).toNat < height.toNat → height.toNat
        ≤ lastEnd height.toNat bandRows.toNat (bandY + bandRows.toUInt16).toNat % 2 ^ 16) := by
  have hheight := height.toNat_lt
  have hnext := toNat_nextBand bandRows bandY
  by_cases hmore : bandY.toNat + bandRows.toNat < height.toNat
  · rw [Nat.mod_eq_of_lt (by omega)] at hnext
    rw [hnext, ← lastEnd_of_lt hmore hpos]
    exact ⟨.inl (by omega), fun _ => hends⟩
  · rw [lastEnd_of_le hy (Nat.not_lt.mp hmore)] at hends
    exact ⟨.inr (by omega), fun hlt => by omega⟩

/-- The bytes of this band, and of those behind it. -/
lemma bytesFrom_rest {y n next h : ℕ} (hn : n ≤ h - y)
    (hrest : next = y + n ∨ h - next = 0 ∧ n = h - y) (stride : ℕ) (m : Frame) :
    bytesFrom (y * stride) (n * stride) m ++ bytesFrom (next * stride) ((h - next) * stride) m
      = bytesFrom (y * stride) ((h - y) * stride) m := by
  rcases hrest with rfl | ⟨hzero, rfl⟩
  · have hrows : h - y = n + (h - (y + n)) := by omega
    rw [Nat.add_mul y n, bytesFrom_append, ← Nat.add_mul, ← hrows]
  · rw [hzero, Nat.zero_mul]
    exact List.append_nil _

/-- Its rows, and those behind it. -/
lemma range'_rest {y n next h : ℕ} (hn : n ≤ h - y)
    (hrest : next = y + n ∨ h - next = 0 ∧ n = h - y) :
    List.range' y n ++ List.range' next (h - next) = List.range' y (h - y) := by
  rcases hrest with rfl | ⟨hzero, rfl⟩
  · have hrows : h - y = n + (h - (y + n)) := by omega
    rw [List.range'_append_1, ← hrows]
  · rw [hzero]
    exact List.append_nil _

section Renders

variable {calls : List PaintCall} {write : BandWrite → Int32} {m₁ mf : Frame}
  (hbytes : width.toNat % 8 = 0) (hpos : 0 < bandRows.toNat)
  (hmul : width.toNat * min bandRows.toNat height.toNat < 2 ^ 31)
  (hroom : min bandRows.toNat height.toNat * (width.toNat / 8)
    ≤ (displayPaintObj scanmode direction width height bandRows).bufferSize.toNat)
  (hcalls : ∀ c ∈ calls, c.OnPanel (displayPaintObj scanmode direction width height 0))
  (hwrite : ∀ t, write t = 0)
  (hfull : drawCalls cfg (displayPaintObj scanmode direction width height 0) calls
    (paintFill cfg (displayPaintObj scanmode direction width height 0) .white m₁) = some mf)

include hbytes hpos hmul hroom hcalls hwrite hfull

/-- **A turn** writes its rows of the whole buffer. -/
lemma displayBands_turn_renders (fuel : ℕ) {bandY : UInt16} (hy : bandY < height)
    (hint : bandY.toNat + bandRows.toNat < 2 ^ 31) (m : Frame) :
    ∃ m' t, displayBands cfg (displayPaintObj scanmode direction width height bandRows) calls width
        height write (fuel + 1) bandY m
          = (displayBands cfg (displayPaintObj scanmode direction width height bandRows) calls width
            height write fuel (bandY + bandRows.toUInt16) m').map (fun r => (t :: r.1, r.2))
      ∧ t.y = bandY ∧ t.rows.toNat = min bandRows.toNat (height.toNat - bandY.toNat)
      ∧ t.bytes = bytesFrom (bandY.toNat * (width.toNat / 8))
        (min bandRows.toNat (height.toNat - bandY.toNat) * (width.toNat / 8)) mf := by
  have hynat := UInt16.lt_iff_toNat_lt.mp hy
  have hband := bandOf_setBand scanmode direction hbytes hpos (by omega) hynat
  have hsame : (displayPaintObj scanmode direction width height bandRows).bandHeight = bandRows :=
    displayPaintObj_bandHeight ..
  have hwidth : (displayPaintObj scanmode direction width height 0).width.toNat = width.toNat := by
    rw [displayPaintObj_width, UInt16.toNat_toUInt32]
  have hrows : (bandRowsAt height bandY bandRows).toNat
      = min bandRows.toNat (height.toNat - bandY.toNat) := toNat_bandRowsAt bandRows hynat
  have hfirst : min bandRows.toNat (height.toNat - bandY.toNat)
      ≤ min bandRows.toNat height.toNat := by omega
  -- the buffer after the calls is a slice of the whole one
  have hroom' : min bandRows.toNat (height.toNat - bandY.toNat)
      * ((displayPaintObj scanmode direction width height 0).width.toNat / 8)
      ≤ (displayPaintObj scanmode direction width height bandRows).bufferSize.toNat := by
    rw [hwidth]
    exact (Nat.mul_le_mul_right _ hfirst).trans hroom
  obtain ⟨m', mf', hdraw, hfull', hslice⟩ :=
    drawCalls_slice hband hcalls (paintFill_slice hband hroom' m m₁)
  obtain rfl := Option.some.inj (hfull'.symm.trans hfull)
  have hwritten := wbBytes_of_slice hslice
  rw [hwidth] at hwritten
  -- and the turn is defined
  have hsum : bandY.toNat + (displayPaintObj scanmode direction width height
      bandRows).bandHeight.toNat < 2 ^ 31 := by
    rw [hsame]
    exact hint
  have hmul' : width.toNat * (bandRowsAt height bandY (displayPaintObj scanmode direction width
      height bandRows).bandHeight).toNat < 2 ^ 31 := by
    rw [hsame, hrows]
    exact (Nat.mul_le_mul_left _ hfirst).trans_lt hmul
  have hturn := displayBands_turn fuel hwrite hy hsum hdraw hmul'
  rw [hsame] at hturn
  refine ⟨m', _, hturn, rfl, ?_, ?_⟩
  · rw [turnWrite, hsame, hrows]
  · show wbBytes _ m' = _
    rw [hsame, hrows, mul_rows_div hbytes, hwritten]

/-- **The loop from a band on** writes the rest of the panel. -/
theorem displayBands_renders (fuel : ℕ) (bandY : UInt16)
    (hfuel : height.toNat - bandY.toNat < fuel)
    (hint : bandY.toNat < height.toNat → bandY.toNat + bandRows.toNat < 2 ^ 31)
    (hends : bandY.toNat < height.toNat →
      height.toNat ≤ lastEnd height.toNat bandRows.toNat bandY.toNat % 2 ^ 16) (m : Frame) :
    ∃ writes, displayBands cfg (displayPaintObj scanmode direction width height bandRows) calls width
        height write fuel bandY m = some (writes, 0)
      ∧ writtenRows writes = List.range' bandY.toNat (height.toNat - bandY.toNat)
      ∧ writes.flatMap BandWrite.bytes = bytesFrom (bandY.toNat * (width.toNat / 8))
        ((height.toNat - bandY.toNat) * (width.toNat / 8)) mf := by
  have hheight := height.toNat_lt
  induction fuel generalizing bandY m with
  | zero => omega
  | succ fuel ih =>
      by_cases hy : bandY < height
      · have hynat := UInt16.lt_iff_toNat_lt.mp hy
        obtain ⟨m', t, hturn, rfl, hrows, hwritten⟩ := displayBands_turn_renders hbytes hpos hmul hroom
          hcalls hwrite hfull fuel hy (hint hynat) m
        obtain ⟨hrest, hends'⟩ := nextBand_cases hpos hynat (hends hynat)
        obtain ⟨writes, hloop, hrows', hwritten'⟩ := ih (t.y + bandRows.toUInt16) (by omega)
          (fun hlt => by omega) hends' m'
        refine ⟨t :: writes, ?_, ?_, ?_⟩
        · rw [hturn, hloop]
          rfl
        · show List.range' t.y.toNat t.rows.toNat ++ writtenRows writes = _
          rw [hrows, hrows']
          exact range'_rest (by omega) hrest
        · show t.bytes ++ writes.flatMap BandWrite.bytes = _
          rw [hwritten, hwritten']
          exact bytesFrom_rest (by omega) hrest _ _
      · rw [displayBands_done hy]
        rw [UInt16.lt_iff_toNat_lt] at hy
        have hzero : height.toNat - bandY.toNat = 0 := by omega
        rw [hzero, Nat.zero_mul]
        exact ⟨[], rfl, rfl, rfl⟩

end Renders

/-! ## A loop that does not end, or writes too much -/

section Ends

variable {o : PaintObj} {calls : List PaintCall} {write : BandWrite → Int32} {bandY : UInt16}
  {m : Frame} (hwrite : ∀ t, write t = 0)

include hwrite

/-- Bands without rows. -/
lemma displayBands_of_zero (hzero : o.bandHeight = 0) (hy : bandY < height) (fuel : ℕ) (m : Frame) :
    displayBands cfg o calls width height write fuel bandY m = none := by
  induction fuel generalizing m with
  | zero => rfl
  | succ fuel ih =>
      rcases hloop : displayBands cfg o calls width height write (fuel + 1) bandY m with _ | ⟨ws, err⟩
      · rfl
      · obtain ⟨m', rest, -, -, -, -, hrest⟩ := displayBands_some hwrite hy hloop
        have hsame : bandY + o.bandHeight.toUInt16 = bandY := by
          rw [hzero]
          exact UInt16.add_zero bandY
        rw [hsame, ih] at hrest
        cases hrest

/-- A band on the panel has rows to write. -/
lemma writtenRows_ne_nil (hpos : 0 < o.bandHeight.toNat) (hy : bandY < height) {fuel : ℕ}
    {writes : List BandWrite} {err : Int32}
    (h : displayBands cfg o calls width height write fuel bandY m = some (writes, err)) :
    writtenRows writes ≠ [] := by
  cases fuel with
  | zero => cases h
  | succ fuel =>
      obtain ⟨m', rest, -, -, -, rfl, -⟩ := displayBands_some hwrite hy h
      have hynat := UInt16.lt_iff_toNat_lt.mp hy
      have hrows := toNat_bandRowsAt o.bandHeight hynat
      intro hnil
      have hfirst := (List.append_eq_nil_iff.mp hnil).1
      rw [List.range'_eq_nil_iff] at hfirst
      change (bandRowsAt height bandY o.bandHeight).toNat = 0 at hfirst
      omega

/-- **The counter stops behind the panel**, if each row is written once. -/
lemma le_lastEnd (hpos : 0 < o.bandHeight.toNat) (fuel : ℕ) {writes : List BandWrite} {err : Int32}
    (h : displayBands cfg o calls width height write fuel bandY m = some (writes, err))
    (hy : bandY < height)
    (hrows : writtenRows writes = List.range' bandY.toNat (height.toNat - bandY.toNat)) :
    height.toNat ≤ lastEnd height.toNat o.bandHeight.toNat bandY.toNat % 2 ^ 16 := by
  have hheight := height.toNat_lt
  induction fuel generalizing bandY m writes with
  | zero => cases h
  | succ fuel ih =>
      have hynat := UInt16.lt_iff_toNat_lt.mp hy
      have hnext := toNat_nextBand o.bandHeight bandY
      obtain ⟨m', rest, -, -, -, rfl, hrest⟩ := displayBands_some hwrite hy h
      change List.range' bandY.toNat (bandRowsAt height bandY o.bandHeight).toNat ++ writtenRows rest
        = _ at hrows
      rw [toNat_bandRowsAt _ hynat] at hrows
      by_cases hmore : bandY.toNat + o.bandHeight.toNat < height.toNat
      · rw [Nat.mod_eq_of_lt (by omega)] at hnext
        have hsplit : height.toNat - bandY.toNat
            = o.bandHeight.toNat + (height.toNat - (bandY.toNat + o.bandHeight.toNat)) := by omega
        rw [Nat.min_eq_left (by omega), hsplit, ← List.range'_append_1] at hrows
        have hlater := List.append_cancel_left hrows
        rw [← hnext] at hlater
        rw [lastEnd_of_lt hmore hpos, ← hnext]
        exact ih hrest (UInt16.lt_iff_toNat_lt.mpr (by omega)) hlater
      · rw [Nat.min_eq_right (by omega), List.append_right_eq_self] at hrows
        rw [lastEnd_of_le hynat (Nat.not_lt.mp hmore), ← hnext]
        refine Nat.not_lt.mp fun hlt => ?_
        exact writtenRows_ne_nil hwrite hpos (UInt16.lt_iff_toNat_lt.mpr hlt) hrest hrows

end Ends

/-! ## Room for the rows -/

lemma paintFill_white (cfg : PaintConfig) (o : PaintObj) (m : Frame) (i : UInt32) :
    paintFill cfg o .white m .wb i
      = if i < o.bufferSize then (if cfg.wbOn = true then 0 else 0xff) else m .wb i := by
  simp only [paintFill, PaintConfig.pen]
  cases cfg.wbOn <;> rfl

lemma getElem?_wbBytes {k n : ℕ} (hk : k < n) (m : Frame) :
    (wbBytes n m)[k]? = some (m .wb (UInt32.ofNat k)) := by
  rw [wbBytes, List.getElem?_map, List.getElem?_range hk]
  rfl

/-- The first band has room, if what the memory held before is not written. -/
lemma room_of_bytes {band full : PaintObj} {stride n h : ℕ} {m₁ : Frame} {rest : List UInt8}
    (hn : n ≤ h) (hfull : full.bufferSize.toNat = h * stride)
    (heq : wbBytes (n * stride)
        (paintFill cfg band .white fun _ _ => if cfg.wbOn = true then 0xff else 0) ++ rest
      = wbBytes (h * stride) (paintFill cfg full .white m₁)) :
    n * stride ≤ band.bufferSize.toNat := by
  refine Nat.not_lt.mp fun hlt => ?_
  have hle : n * stride ≤ h * stride := Nat.mul_le_mul_right _ hn
  -- the first byte that has not been filled
  have hbyte := congrArg (·[band.bufferSize.toNat]?) heq
  have hlength : band.bufferSize.toNat < (wbBytes (n * stride)
      (paintFill cfg band .white fun _ _ => if cfg.wbOn = true then 0xff else 0)).length := by
    rw [wbBytes, List.length_map, List.length_range]
    exact hlt
  have hin : band.bufferSize < full.bufferSize := by
    rw [UInt32.lt_iff_toNat_lt, hfull]
    omega
  rw [List.getElem?_append_left hlength, getElem?_wbBytes hlt, getElem?_wbBytes (by omega),
    Option.some_inj, paintFill_white, paintFill_white, UInt32.ofNat_toNat,
    if_neg (UInt32.lt_irrefl _), if_pos hin] at hbyte
  cases hon : cfg.wbOn <;> rw [hon] at hbyte <;> exact absurd hbyte (by decide)

/-! ## When the rows are the panel -/

variable (cfg) in
/-- The calls end on a panel without bands. -/
lemma exists_drawCalls {f : PaintObj} (hsize : f.PanelSize) {calls : List PaintCall}
    (hcalls : ∀ c ∈ calls, c.OnPanel f) (m : Frame) : ∃ m', drawCalls cfg f calls m = some m' := by
  have hwidth := hsize.width
  induction calls generalizing m with
  | nil => exact ⟨m, rfl⟩
  | cons c calls ih =>
      have hcall : ∃ m', drawCall cfg f c m = some m' := by
        have hc := hcalls c List.mem_cons_self
        cases c with
        | point color x y => exact ⟨_, rfl⟩
        | string color font s x y => exact ⟨_, rfl⟩
        | rect color r =>
            rw [drawCall, paintFillRect]
            split
            · exact ⟨m, rfl⟩
            · obtain ⟨m', hfill, -⟩ := painted_fillRows_of_panel cfg color hc.2
                (by have hcols := hc.1; omega) m
              exact ⟨m', hfill⟩
      obtain ⟨m', hfirst⟩ := hcall
      rw [drawCalls, hfirst]
      exact ih (fun c' hc' => hcalls c' (List.mem_cons_of_mem c hc')) m'

variable (scanmode direction height) in
lemma toNat_bufferSize (hpos : 0 < bandRows.toNat) :
    (displayPaintObj scanmode direction width height bandRows).bufferSize.toNat
      = bandRows.toNat * (width.toNat / 8) % 2 ^ 32 := by
  have hne : bandRows ≠ 0 := by
    rintro rfl
    exact absurd hpos (Nat.lt_irrefl 0)
  rw [displayPaintObj_bufferSize, if_pos hne, UInt32.toNat_mul, UInt32.toNat_div,
    UInt16.toNat_toUInt32]
  rfl

lemma toNat_bufferSize_full :
    (displayPaintObj scanmode direction width height 0).bufferSize.toNat
      = height.toNat * (width.toNat / 8) := by
  have hwidth := width.toNat_lt
  have hheight := height.toNat_lt
  have hmul : height.toNat * (width.toNat / 8) ≤ 65535 * 8191 := Nat.mul_le_mul (by omega) (by omega)
  rw [displayPaintObj_bufferSize, if_neg (not_not_intro rfl), UInt32.toNat_mul, UInt32.toNat_div,
    UInt16.toNat_toUInt32, UInt16.toNat_toUInt32]
  exact Nat.mod_eq_of_lt (by show height.toNat * (width.toNat / 8) < _; omega)

/-- What the loop and its buffer need on a panel that has rows. -/
structure BandsFit (width height : UInt16) (bandRows : UInt32) : Prop where
  pos : 0 < bandRows.toNat
  sum : bandRows.toNat < 2 ^ 31
  ends : height.toNat
    ≤ (height.toNat + bandRows.toNat - 1) / bandRows.toNat * bandRows.toNat % 2 ^ 16
  mul : width.toNat * min bandRows.toNat height.toNat < 2 ^ 31
  room : min bandRows.toNat height.toNat * (width.toNat / 8)
    ≤ bandRows.toNat * (width.toNat / 8) % 2 ^ 32

lemma lastEnd_zero (h r : ℕ) : lastEnd h r 0 = (h + r - 1) / r * r := by
  rw [lastEnd, Nat.zero_add, Nat.sub_zero]

/-- **Enough**: the rows that are written are the whole buffer. -/
theorem rendersFull_of_bandsFit (hbytes : width.toNat % 8 = 0)
    (hfit : BandsFit width height bandRows) :
    RendersFull cfg scanmode direction width height bandRows := by
  intro calls hcalls write hwrite m₀ m₁
  have hheight := height.toNat_lt
  obtain ⟨m, hfull⟩ := exists_drawCalls cfg
    (panelSize_displayPaintObj hbytes scanmode direction height 0) hcalls
    (paintFill cfg (displayPaintObj scanmode direction width height 0) .white m₁)
  have hfuel : height.toNat - (0 : UInt16).toNat < bandFuel := by
    unfold bandFuel
    omega
  have hint : (0 : UInt16).toNat + bandRows.toNat < 2 ^ 31 := by
    show 0 + bandRows.toNat < _
    rw [Nat.zero_add]
    exact hfit.sum
  have hends : height.toNat ≤ lastEnd height.toNat bandRows.toNat (0 : UInt16).toNat % 2 ^ 16 := by
    show _ ≤ lastEnd height.toNat bandRows.toNat 0 % _
    rw [lastEnd_zero]
    exact hfit.ends
  have hroom := hfit.room.trans_eq (toNat_bufferSize scanmode direction height hfit.pos).symm
  obtain ⟨writes, hloop, hrows, hbytesOf⟩ := displayBands_renders hbytes hfit.pos hfit.mul hroom hcalls
    hwrite hfull bandFuel 0 hfuel (fun _ => hint) (fun _ => hends) m₀
  refine ⟨writes, m, hloop, hfull, ?_, ?_⟩
  · rw [List.range_eq_range']
    exact hrows
  · rw [hbytesOf, wbBytes_eq]
    show bytesFrom (0 * _) ((height.toNat - 0) * _) m = _
    rw [Nat.zero_mul, Nat.sub_zero]

/-- **Needed**, on a panel that has rows. -/
theorem bandsFit_of_rendersFull (hbytes : width.toNat % 8 = 0) (hheight : 0 < height.toNat)
    (h : RendersFull cfg scanmode direction width height bandRows) :
    BandsFit width height bandRows := by
  have hwrite : ∀ t : BandWrite, (fun _ => (0 : Int32)) t = 0 := fun _ => rfl
  obtain ⟨writes, m, hloop, hfull, hrows, hbytesOf⟩ := h [] (fun c hc => absurd hc List.not_mem_nil)
    (fun _ => 0) hwrite (fun _ _ => if cfg.wbOn = true then 0xff else 0) fun _ _ => 0
  have hy : (0 : UInt16) < height := UInt16.lt_iff_toNat_lt.mpr hheight
  have hsame : (displayPaintObj scanmode direction width height bandRows).bandHeight = bandRows :=
    displayPaintObj_bandHeight ..
  have hpos : 0 < bandRows.toNat := by
    refine Nat.pos_of_ne_zero fun hzero => ?_
    rw [displayBands_of_zero hwrite (hsame.trans (UInt32.toNat_inj.mp hzero)) hy] at hloop
    cases hloop
  have hends := le_lastEnd hwrite (by rw [hsame]; exact hpos) bandFuel hloop hy (by
    show _ = List.range' 0 (height.toNat - 0)
    rw [Nat.sub_zero, ← List.range_eq_range']
    exact hrows)
  change _ ≤ lastEnd height.toNat _ 0 % _ at hends
  rw [lastEnd_zero, hsame] at hends
  -- the first band
  obtain ⟨m', rest, hsum, hdraw, hmul, rfl, -⟩ := displayBands_some hwrite hy hloop
  have hfirst := toNat_bandRowsAt bandRows (show (0 : UInt16).toNat < height.toNat from hheight)
  change _ = min bandRows.toNat (height.toNat - 0) at hfirst
  rw [Nat.sub_zero] at hfirst
  rw [hsame] at hsum
  rw [hsame, hfirst] at hmul
  obtain rfl := Option.some.inj hdraw
  obtain rfl := Option.some.inj hfull
  refine ⟨hpos, by change 0 + bandRows.toNat < _ at hsum; omega, hends, hmul, ?_⟩
  change wbBytes (width.toNat * (bandRowsAt height 0 _).toNat / 8) _ ++ _ = _ at hbytesOf
  rw [hsame, hfirst, mul_rows_div hbytes] at hbytesOf
  rw [← toNat_bufferSize scanmode direction height hpos]
  exact room_of_bytes (by omega) toNat_bufferSize_full hbytesOf

/-- A panel without rows has nothing to write. -/
lemma rendersFull_of_no_rows (hbytes : width.toNat % 8 = 0) (hzero : height = 0) :
    RendersFull cfg scanmode direction width height bandRows := by
  intro calls hcalls write hwrite m₀ m₁
  obtain ⟨m, hfull⟩ := exists_drawCalls cfg
    (panelSize_displayPaintObj hbytes scanmode direction height 0) hcalls
    (paintFill cfg (displayPaintObj scanmode direction width height 0) .white m₁)
  have hdone : ¬ (0 : UInt16) < height := by
    rw [hzero]
    exact UInt16.lt_irrefl 0
  refine ⟨[], m, displayBands_done hdone, hfull, ?_, ?_⟩
  · rw [hzero]
    rfl
  · rw [hzero, wbBytes]
    show [] = List.map _ (List.range (0 * _))
    rw [Nat.zero_mul]
    rfl

end Loop

/-- **When band rendering is full rendering.**  The panel has no rows; or the bands have, the counter of
16 bits stops behind the panel and does not come round, the products fit their types, and the buffer has
room for the rows of a band. -/
theorem rendersFull_iff (cfg : PaintConfig) (scanmode : PaintScanMode) (direction : PaintDirection)
    (width height : UInt16) (bandRows : UInt32) (hbytes : width.toNat % 8 = 0) :
    RendersFull cfg scanmode direction width height bandRows
      ↔ height = 0 ∨ BandsFit width height bandRows := by
  constructor
  · intro h
    by_cases hzero : height = 0
    · exact .inl hzero
    · have hpos : 0 < height.toNat := Nat.pos_of_ne_zero fun hz => hzero (UInt16.toNat_inj.mp hz)
      exact .inr (bandsFit_of_rendersFull hbytes hpos h)
  · rintro (hzero | hfit)
    · exact rendersFull_of_no_rows hbytes hzero
    · exact rendersFull_of_bandsFit hbytes hfit

/-- A panel of 400 columns and 300 rows, whose last band is a part of one. -/
theorem rendersFull_iff_300 :
    RendersFull ⟨false, false, false, true⟩ .mode1 .d90 400 300 16 :=
  (rendersFull_iff _ _ _ _ _ _ (by decide)).mpr
    (.inr ⟨by decide, by decide, by decide, by decide, by decide⟩)

/-- On a panel of 65521 rows the counter comes round behind the last band. -/
theorem not_rendersFull : ¬ RendersFull ⟨false, false, false, true⟩ .mode1 .d0 8 65521 16 :=
  fun h => absurd (bandsFit_of_rendersFull (by decide) (by decide) h).ends (by decide)

/-- **`display_update_paint`**, with its bands of 16 rows, writes its texts as they are drawn on the whole
panel, if that has at most 65520 rows. -/
theorem displayUpdatePaint_renders (cfg : PaintConfig) (scanmode : PaintScanMode)
    (direction : PaintDirection) {width height : UInt16} (hbytes : width.toNat % 8 = 0)
    (hheight : height.toNat ≤ 65520) (font16 : Font) (paintCmds : List PaintCmd)
    {write : BandWrite → Int32} (hwrite : ∀ t, write t = 0) (m₀ m₁ : Frame) :
    let full := displayPaintObj scanmode direction width height 0
    ∃ writes m, displayUpdatePaint cfg (displayPaintObj scanmode direction width height 16) font16
        paintCmds width height write m₀ = some (writes, 0)
      ∧ drawCalls cfg full (paintCmds.map (PaintCmd.call font16)) (paintFill cfg full .white m₁) = some m
      ∧ writtenRows writes = List.range height.toNat
      ∧ writes.flatMap BandWrite.bytes = wbBytes (height.toNat * (width.toNat / 8)) m := by
  have hwidth := width.toNat_lt
  have hrenders : RendersFull cfg scanmode direction width height 16 := by
    refine rendersFull_of_bandsFit hbytes ?_
    have hmul : width.toNat * min 16 height.toNat ≤ 65535 * 16 :=
      Nat.mul_le_mul (by omega) (Nat.min_le_left _ _)
    have hroom : min 16 height.toNat * (width.toNat / 8) ≤ 16 * (width.toNat / 8) :=
      Nat.mul_le_mul_right _ (Nat.min_le_left _ _)
    refine ⟨by decide, by decide, ?_, ?_, ?_⟩
    · show height.toNat ≤ (height.toNat + 16 - 1) / 16 * 16 % 2 ^ 16
      omega
    · show width.toNat * min 16 height.toNat < 2 ^ 31
      omega
    · show min 16 height.toNat * (width.toNat / 8) ≤ 16 * (width.toNat / 8) % 2 ^ 32
      omega
  refine hrenders _ (fun c hc => ?_) write hwrite m₀ m₁
  -- texts may be anywhere
  obtain ⟨cmd, -, rfl⟩ := List.mem_map.mp hc
  trivial

end NrfEsl
