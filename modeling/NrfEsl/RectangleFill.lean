import Mathlib.Order.WellFounded
import NrfEsl.PaintedPixels

/-!
# A rectangle and its points

`paint_FillRect` rotates the rectangle and draws it row by row; `paint_DrawPoint` rotates each point.
Both paint a set of bits, so that they leave the same buffers if the sets are equal.

* **The points** of a rectangle are a rectangle of the panel, whatever the direction: `pointBits_eq`.
* **On three directions** `paint_FillRect` draws that rectangle.
* **On the fourth**, 90 degrees, the column of the corner is computed with `rect->width` where the side on
  the panel is `rect->height`.  The rectangle is drawn beside its place, or does not end.

`fillsLikePoints_iff` is for which rectangles the two agree.  A panel has at most 65535 columns and rows:
the range of `CONFIG_ESL_DISPLAY_WIDTH` and `CONFIG_ESL_DISPLAY_HEIGHT`.
-/

namespace NrfEsl

open Bitmap

/-! ## Specification -/

/-- The rectangle is in the drawing area. -/
def InsideArea (o : PaintObj) (r : PaintRect) : Prop :=
  r.x.toNat + r.width.toNat ≤ o.xEnd.toNat ∧ r.y.toNat + r.height.toNat ≤ o.yEnd.toNat

/-- The points of a rectangle. -/
def rectPoints (r : PaintRect) : List (UInt32 × UInt32) :=
  (List.range r.width.toNat).flatMap fun i =>
    (List.range r.height.toNat).map fun j => (r.x + UInt32.ofNat i, r.y + UInt32.ofNat j)

/-- `paint_FillRect` leaves the buffers as `paint_DrawPoint` does for all points, in any order. -/
def FillsLikePoints (cfg : PaintConfig) (o : PaintObj) (color : PaintColor) (r : PaintRect) : Prop :=
  ∀ ps : List (UInt32 × UInt32), ps.Perm (rectPoints r) → ∀ m,
    paintFillRect cfg o color r m = some (drawPoints cfg o color ps m)

/-- The size of a panel. -/
structure PaintObj.PanelSize (o : PaintObj) : Prop where
  width : o.width.toNat ≤ 65535
  height : o.height.toNat ≤ 65535
  bytes : o.width.toNat % 8 = 0

variable {cfg : PaintConfig} {o : PaintObj} {color : PaintColor} {r : PaintRect}

/-! ## The points of a rectangle -/

lemma PaintObj.Prepared.insideArea_le (hp : o.Prepared) (hsize : o.PanelSize) (h : InsideArea o r) :
    r.x.toNat + r.width.toNat ≤ 65535 ∧ r.y.toNat + r.height.toNat ≤ 65535 := by
  have harea := hp.area
  have hwidth := hsize.width
  have hheight := hsize.height
  unfold InsideArea at h
  cases hdir : o.direction <;> simp only [hdir] at harea <;> rw [harea.1, harea.2] at h <;> omega

lemma mem_rectPoints (h : r.x.toNat + r.width.toNat ≤ 65535 ∧ r.y.toNat + r.height.toNat ≤ 65535)
    {p : UInt32 × UInt32} :
    p ∈ rectPoints r ↔ (r.x.toNat ≤ p.1.toNat ∧ p.1.toNat < r.x.toNat + r.width.toNat)
      ∧ r.y.toNat ≤ p.2.toNat ∧ p.2.toNat < r.y.toNat + r.height.toNat := by
  have hof : ∀ {a : UInt32} {i : ℕ}, a.toNat + i ≤ 65535 →
      (a + UInt32.ofNat i).toNat = a.toNat + i := by
    intro a i hi
    have hsmall : (UInt32.ofNat i).toNat = i := by
      rw [UInt32.toNat_ofNat', Nat.mod_eq_of_lt (by omega)]
    rw [toNat_add_of_lt (by omega), hsmall]
  simp only [rectPoints, List.mem_flatMap, List.mem_map, List.mem_range]
  constructor
  · rintro ⟨i, hi, j, hj, rfl⟩
    rw [hof (by omega), hof (by omega)]
    omega
  · rintro ⟨⟨hx, hx'⟩, hy, hy'⟩
    refine ⟨p.1.toNat - r.x.toNat, by omega, p.2.toNat - r.y.toNat, by omega, Prod.ext ?_ ?_⟩
    · exact UInt32.toNat_inj.mp (by rw [hof (by omega)]; omega)
    · exact UInt32.toNat_inj.mp (by rw [hof (by omega)]; omega)

/-- The bits of the points of a rectangle. -/
def pointBits (cfg : PaintConfig) (o : PaintObj) (r : PaintRect) : Set (UInt32 × ℕ) :=
  {q | ∃ x y, (r.x.toNat ≤ x ∧ x < r.x.toNat + r.width.toNat)
    ∧ (r.y.toNat ≤ y ∧ y < r.y.toNat + r.height.toNat) ∧ q ∈ pixelBits cfg o (panelPoint o x y)}

lemma InsideArea.inArea (hp : o.Prepared) (h : InsideArea o r) {x y : ℕ}
    (hx : x < r.x.toNat + r.width.toNat) (hy : y < r.y.toNat + r.height.toNat) : InArea o x y := by
  have harea := hp.area
  unfold InsideArea at h
  unfold InArea
  cases hdir : o.direction <;> simp only [hdir] at harea ⊢ <;> rw [harea.1, harea.2] at h <;> omega

variable (cfg color) in
/-- **Points in any order** paint the bits of the rectangle. -/
theorem painted_rectPoints (hp : o.Prepared) (hsize : o.PanelSize) (h : InsideArea o r)
    {ps : List (UInt32 × UInt32)} (hperm : ps.Perm (rectPoints r)) (m : Frame) :
    Painted (cfg.pen color) (pointBits cfg o r) m (drawPoints cfg o color ps m) := by
  have hsmall := hp.insideArea_le hsize h
  have hmem : ∀ {p : UInt32 × UInt32}, p ∈ ps ↔
      (r.x.toNat ≤ p.1.toNat ∧ p.1.toNat < r.x.toNat + r.width.toNat)
        ∧ r.y.toNat ≤ p.2.toNat ∧ p.2.toNat < r.y.toNat + r.height.toNat :=
    hperm.mem_iff.trans (mem_rectPoints hsmall)
  have hdraw := painted_drawPoints cfg color hp ps
    (fun p hin => h.inArea hp (hmem.mp hin).1.2 (hmem.mp hin).2.2) m
  refine hdraw.congr fun i b hb => ?_
  constructor
  · rintro ⟨p, hin, hq⟩
    exact ⟨p.1.toNat, p.2.toNat, (hmem.mp hin).1, (hmem.mp hin).2, hq⟩
  · rintro ⟨x, y, hx, hy, hq⟩
    have hx' : (UInt32.ofNat x).toNat = x := by
      rw [UInt32.toNat_ofNat', Nat.mod_eq_of_lt (by omega)]
    have hy' : (UInt32.ofNat y).toNat = y := by
      rw [UInt32.toNat_ofNat', Nat.mod_eq_of_lt (by omega)]
    refine ⟨(UInt32.ofNat x, UInt32.ofNat y), hmem.mpr ?_, ?_⟩
    · rw [hx', hy']
      exact ⟨hx, hy⟩
    · rw [hx', hy']
      exact hq

/-- **Rotated**, the points are a rectangle of the panel. -/
theorem pointBits_eq (hp : o.Prepared) (h : InsideArea o r) :
    pointBits cfg o r =
      match o.direction with
      | .d0 => boxBits cfg o r.x.toNat r.y.toNat r.width.toNat r.height.toNat
      | .d90 => boxBits cfg o (o.width.toNat - (r.y.toNat + r.height.toNat)) r.x.toNat
          r.height.toNat r.width.toNat
      | .d180 => boxBits cfg o (o.width.toNat - (r.x.toNat + r.width.toNat))
          (o.height.toNat - (r.y.toNat + r.height.toNat)) r.width.toNat r.height.toNat
      | .d270 => boxBits cfg o r.y.toNat (o.height.toNat - (r.x.toNat + r.width.toNat))
          r.height.toNat r.width.toNat := by
  have harea := hp.area
  unfold InsideArea at h
  refine Set.ext fun q => ?_
  cases hdir : o.direction with
  | d0 =>
      have hpoint : ∀ x y, panelPoint o x y = (x, flipRow o y) := by
        intro x y
        simp only [panelPoint, hdir]
      constructor
      · rintro ⟨x, y, hx, hy, hq⟩
        exact ⟨y, x, hy, hx, hpoint x y ▸ hq⟩
      · rintro ⟨row, c, hrow, hc, hq⟩
        exact ⟨c, row, hc, hrow, hpoint c row ▸ hq⟩
  | d90 =>
      simp only [hdir] at harea
      rw [harea.1, harea.2] at h
      have hpoint : ∀ x y, panelPoint o x y = (o.width.toNat - 1 - y, flipRow o x) := by
        intro x y
        simp only [panelPoint, hdir]
      constructor
      · rintro ⟨x, y, hx, hy, hq⟩
        exact ⟨x, o.width.toNat - 1 - y, hx, by omega, hpoint x y ▸ hq⟩
      · rintro ⟨row, c, hrow, hc, hq⟩
        refine ⟨row, o.width.toNat - 1 - c, hrow, by omega, ?_⟩
        rw [hpoint, Nat.sub_sub_self (by omega)]
        exact hq
  | d180 =>
      simp only [hdir] at harea
      rw [harea.1, harea.2] at h
      have hpoint : ∀ x y,
          panelPoint o x y = (o.width.toNat - 1 - x, flipRow o (o.height.toNat - 1 - y)) := by
        intro x y
        simp only [panelPoint, hdir]
      constructor
      · rintro ⟨x, y, hx, hy, hq⟩
        exact ⟨o.height.toNat - 1 - y, o.width.toNat - 1 - x, by omega, by omega, hpoint x y ▸ hq⟩
      · rintro ⟨row, c, hrow, hc, hq⟩
        refine ⟨o.width.toNat - 1 - c, o.height.toNat - 1 - row, by omega, by omega, ?_⟩
        rw [hpoint, Nat.sub_sub_self (by omega), Nat.sub_sub_self (by omega)]
        exact hq
  | d270 =>
      simp only [hdir] at harea
      rw [harea.1, harea.2] at h
      have hpoint : ∀ x y, panelPoint o x y = (y, flipRow o (o.height.toNat - 1 - x)) := by
        intro x y
        simp only [panelPoint, hdir]
      constructor
      · rintro ⟨x, y, hx, hy, hq⟩
        exact ⟨o.height.toNat - 1 - x, y, by omega, hy, hpoint x y ▸ hq⟩
      · rintro ⟨row, c, hrow, hc, hq⟩
        refine ⟨o.height.toNat - 1 - row, c, by omega, hc, ?_⟩
        rw [hpoint, Nat.sub_sub_self (by omega)]
        exact hq

/-! ## The rectangle of `paint_FillRect` -/

/-- A corner of the panel, counted from its far side. -/
lemma toNat_sub_add {a b c : UInt32} (h : b.toNat + c.toNat ≤ a.toNat) :
    (a - (b + c)).toNat = a.toNat - (b.toNat + c.toNat) := by
  have hlt := a.toNat_lt
  have hsum : (b + c).toNat = b.toNat + c.toNat := toNat_add_of_lt (by omega)
  rw [UInt32.toNat_sub_of_le _ _ (UInt32.le_iff_toNat_le.mpr (hsum ▸ h)), hsum]

lemma paintFillRect_of_insideArea (hp : o.Prepared) (hsize : o.PanelSize) (h : InsideArea o r)
    (m : Frame) :
    paintFillRect cfg o color r m
      = fillRows cfg o color (o.toPanelRect r) paintFuel (o.toPanelRect r).y m := by
  have hsmall := hp.insideArea_le hsize h
  have hx : (r.x + r.width).toNat = r.x.toNat + r.width.toNat := toNat_add_of_lt (by omega)
  have hy : (r.y + r.height).toNat = r.y.toNat + r.height.toNat := toNat_add_of_lt (by omega)
  rw [paintFillRect, if_neg]
  rw [gt_iff_lt, gt_iff_lt, UInt32.lt_iff_toNat_lt, UInt32.lt_iff_toNat_lt, hx, hy]
  exact fun hout => hout.elim (Nat.not_lt.mpr h.1) (Nat.not_lt.mpr h.2)

/-- The rows are on the panel, and so is the corner, but for the slip. -/
lemma toPanelRect_onPanel (hp : o.Prepared) (hsize : o.PanelSize) (h : InsideArea o r)
    (hcol : o.direction = .d90 → r.y.toNat + r.width.toNat ≤ o.width.toNat) :
    (o.toPanelRect r).y.toNat + (o.toPanelRect r).height.toNat ≤ o.height.toNat
      ∧ (o.toPanelRect r).x.toNat + (o.toPanelRect r).width.toNat + 8 < 2 ^ 32 := by
  have harea := hp.area
  have hsmall := hp.insideArea_le hsize h
  have hwidth := hsize.width
  unfold InsideArea at h
  unfold PaintObj.toPanelRect
  cases hdir : o.direction with
  | d0 =>
      simp only [hdir] at harea ⊢
      rw [harea.1, harea.2] at h
      omega
  | d90 =>
      simp only [hdir] at harea ⊢
      rw [harea.1, harea.2] at h
      rw [toNat_sub_add (hcol hdir)]
      omega
  | d180 =>
      simp only [hdir] at harea ⊢
      rw [harea.1, harea.2] at h
      rw [toNat_sub_add h.1, toNat_sub_add h.2]
      omega
  | d270 =>
      simp only [hdir] at harea ⊢
      rw [harea.1, harea.2] at h
      rw [toNat_sub_add h.1]
      omega

variable (cfg color) in
/-- **A rectangle that is drawn on the panel.** -/
theorem painted_paintFillRect (hp : o.Prepared) (hsize : o.PanelSize) (h : InsideArea o r)
    (hcol : o.direction = .d90 → r.y.toNat + r.width.toNat ≤ o.width.toNat) (m : Frame) :
    ∃ m', paintFillRect cfg o color r m = some m'
      ∧ Painted (cfg.pen color) (boxBits cfg o (o.toPanelRect r).x.toNat (o.toPanelRect r).y.toNat
        (o.toPanelRect r).width.toNat (o.toPanelRect r).height.toNat) m m' := by
  obtain ⟨hrows, hlimit⟩ := toPanelRect_onPanel hp hsize h hcol
  rw [paintFillRect_of_insideArea hp hsize h]
  exact painted_fillRows_of_panel cfg color hrows hlimit m

/-- **The rectangle has its place**, but for the slip. -/
theorem pointBits_eq_toPanelRect (hp : o.Prepared) (h : InsideArea o r)
    (hside : o.direction = .d90 → r.width = r.height) :
    pointBits cfg o r = boxBits cfg o (o.toPanelRect r).x.toNat (o.toPanelRect r).y.toNat
      (o.toPanelRect r).width.toNat (o.toPanelRect r).height.toNat := by
  have harea := hp.area
  have harea' := h
  rw [pointBits_eq hp h]
  unfold InsideArea at harea'
  unfold PaintObj.toPanelRect
  cases hdir : o.direction with
  | d0 => rfl
  | d90 =>
      simp only [hdir] at harea ⊢
      rw [harea.1, harea.2] at harea'
      rw [hside hdir, toNat_sub_add harea'.2]
  | d180 =>
      simp only [hdir] at harea ⊢
      rw [harea.1, harea.2] at harea'
      rw [toNat_sub_add harea'.1, toNat_sub_add harea'.2]
  | d270 =>
      simp only [hdir] at harea ⊢
      rw [harea.1, harea.2] at harea'
      rw [toNat_sub_add harea'.1]

/-- **Both agree** where the sides do. -/
theorem fillsLikePoints_of_side (hp : o.Prepared) (hsize : o.PanelSize) (h : InsideArea o r)
    (hside : o.direction = .d90 → r.width = r.height) : FillsLikePoints cfg o color r := by
  intro ps hperm m
  have hcol : o.direction = .d90 → r.y.toNat + r.width.toNat ≤ o.width.toNat := by
    intro hdir
    have harea := hp.area
    simp only [hdir] at harea
    rw [hside hdir, ← harea.2]
    exact h.2
  obtain ⟨m', hfill, hpaint⟩ := painted_paintFillRect cfg color hp hsize h hcol m
  rw [← pointBits_eq_toPanelRect hp h hside] at hpaint
  rw [hfill, hpaint.unique (painted_rectPoints cfg color hp hsize h hperm m)]

/-! ## Beside its place -/

lemma flipRow_lt {row : ℕ} (h : row < o.height.toNat) : flipRow o row < o.height.toNat := by
  unfold flipRow
  split <;> omega

/-- The bytes of the panel, and of as many columns again, have indices of their own. -/
lemma PaintObj.PanelSize.rowByte_lt (hsize : o.PanelSize) {c row : ℕ} (hrow : row < o.height.toNat)
    (hc : c < 2 * 65536) : rowByte (o.width.toNat / 8) c (row - o.firstRow) < 2 ^ 29 + 2 ^ 14 := by
  have hwidth := hsize.width
  have hheight := hsize.height
  have hmul : (row - o.firstRow) * (o.width.toNat / 8) ≤ 65535 * 8191 :=
    Nat.mul_le_mul (by omega) (by omega)
  rw [rowByte]
  omega

lemma mem_boxBits {a y w h : ℕ} {i : UInt32} {b : ℕ} :
    (i, b) ∈ boxBits cfg o a y w h ↔ ∃ row c, (y ≤ row ∧ row < y + h) ∧ (a ≤ c ∧ c < a + w)
      ∧ o.Keeps (flipRow o row)
      ∧ i = UInt32.ofNat (rowByte (o.width.toNat / 8) c (flipRow o row - o.firstRow))
      ∧ b = cfg.bitOf c :=
  Iff.rfl

/-- A rectangle of the panel does not begin right of one with the same bits. -/
lemma boxBits_column_le (hsize : o.PanelSize) {a a' y w h : ℕ} (hrows : y + h ≤ o.height.toNat)
    (hw : 0 < w) (hcol : a + w < 2 * 65536) (hcol' : a' + w < 2 * 65536)
    (hkeeps : ∃ row, (y ≤ row ∧ row < y + h) ∧ o.Keeps (flipRow o row))
    (heq : ∀ i b, b < 8 → ((i, b) ∈ boxBits cfg o a y w h ↔ (i, b) ∈ boxBits cfg o a' y w h)) :
    a' ≤ a := by
  -- the first row that is kept
  obtain ⟨row₀, hrow₀, hkeeps₀⟩ := hkeeps
  obtain ⟨n, ⟨row, hrow, hkeeps, rfl⟩, hmin⟩ := WellFounded.has_min Nat.lt_wfRel.wf
    {n | ∃ row, (y ≤ row ∧ row < y + h) ∧ o.Keeps (flipRow o row) ∧ n = flipRow o row}
    ⟨_, row₀, hrow₀, hkeeps₀, rfl⟩
  obtain ⟨row', c, hrow', hc, hkeeps', hindex, hbit⟩ :=
    mem_boxBits.mp ((heq _ _ (cfg.bitOf_lt a)).mp (mem_boxBits.mpr
      ⟨row, a, hrow, ⟨Nat.le_refl _, Nat.lt_add_of_pos_right hw⟩, hkeeps, rfl, rfl⟩))
  have hle : flipRow o row ≤ flipRow o row' :=
    Nat.not_lt.mp (hmin _ ⟨row', hrow', hkeeps', rfl⟩)
  have hrowLt : flipRow o row < o.height.toNat := flipRow_lt (by omega)
  have hrowLt' : flipRow o row' < o.height.toNat := flipRow_lt (by omega)
  have hlt := hsize.rowByte_lt hrowLt (c := a) (by omega)
  have hlt' := hsize.rowByte_lt hrowLt' (c := c) (by omega)
  rw [ofNat_inj_of_lt (by omega) (by omega), rowByte, rowByte] at hindex
  have hmod := PaintConfig.bitOf_inj.mp hbit
  have hmul : (flipRow o row - o.firstRow) * (o.width.toNat / 8)
      ≤ (flipRow o row' - o.firstRow) * (o.width.toNat / 8) :=
    Nat.mul_le_mul_right _ (Nat.sub_le_sub_right hle _)
  omega

/-- **A rectangle has the bits of its own columns only.** -/
theorem boxBits_column (hsize : o.PanelSize) {a a' y w h : ℕ} (hrows : y + h ≤ o.height.toNat)
    (hw : 0 < w) (hcol : a + w < 2 * 65536) (hcol' : a' + w < 2 * 65536)
    (hkeeps : ∃ row, (y ≤ row ∧ row < y + h) ∧ o.Keeps (flipRow o row))
    (heq : ∀ i b, b < 8 → ((i, b) ∈ boxBits cfg o a y w h ↔ (i, b) ∈ boxBits cfg o a' y w h)) :
    a = a' :=
  Nat.le_antisymm
    (boxBits_column_le hsize hrows hw hcol' hcol hkeeps fun i b hb => (heq i b hb).symm)
    (boxBits_column_le hsize hrows hw hcol hcol' hkeeps heq)

/-! ## Left of the panel

A corner left of the panel has a column close to the end of the numbers. -/

lemma paints_setcolor (index : UInt32) (mask : UInt8) (m : Frame) :
    Paints (cfg.pen color) m (setcolor cfg color index mask m) :=
  ⟨_, painted_stroke _ index mask m⟩

variable (cfg color) in
lemma paintsAt_setcolor (index : UInt32) {mask : UInt8} {b : ℕ} (h : bit mask b = true) (m : Frame) :
    PaintsAt (cfg.pen color) (index, b) m (setcolor cfg color index mask m) :=
  ⟨maskAt index mask, ⟨rfl, h⟩, painted_stroke _ index mask m⟩

section Lines

variable {x w row : UInt32} {fuel : ℕ} {i : UInt32} {m m' : Frame}

lemma paints_hlineHead {i? : Option UInt32}
    (h : hlineHead cfg o color x w row fuel i m = some (m', i?)) : Paints (cfg.pen color) m m' := by
  induction fuel generalizing i m with
  | zero => cases h
  | succ fuel ih =>
      rw [hlineHead] at h
      split at h
      · split at h
        · cases h
          exact Paints.refl _ _
        · exact (paints_setcolor _ _ m).trans (ih h)
      · cases h
        exact Paints.refl _ _

lemma paints_hlineBytes {i' : UInt32}
    (h : hlineBytes cfg o color x w row fuel i m = some (m', i')) : Paints (cfg.pen color) m m' := by
  induction fuel generalizing i m with
  | zero => cases h
  | succ fuel ih =>
      rw [hlineBytes] at h
      split at h
      · exact (paints_setcolor _ _ m).trans (ih h)
      · cases h
        exact Paints.refl _ _

lemma paints_hlineTail (h : hlineTail cfg o color x w row fuel i m = some m') :
    Paints (cfg.pen color) m m' := by
  induction fuel generalizing i m with
  | zero => cases h
  | succ fuel ih =>
      rw [hlineTail] at h
      split at h
      · exact (paints_setcolor _ _ m).trans (ih h)
      · cases h
        exact Paints.refl _ _

/-- The two last loops of a line. -/
lemma paints_rest {fuel' : ℕ} {m₁ : Frame}
    (h : ((hlineBytes cfg o color x w row fuel i m).bind fun s =>
      hlineTail cfg o color x w row fuel' s.2 s.1) = some m₁) : Paints (cfg.pen color) m m₁ := by
  rcases hbytes : hlineBytes cfg o color x w row fuel i m with _ | ⟨m₂, i'⟩
  · rw [hbytes] at h
    cases h
  · rw [hbytes] at h
    exact (paints_hlineBytes hbytes).trans (paints_hlineTail h)

lemma paints_drawHline {y : UInt32} (h : drawHline cfg o color x y w m = some m') :
    Paints (cfg.pen color) m m' := by
  rw [drawHline] at h
  rcases hrow : o.bandRow y with _ | row
  · rw [hrow] at h
    cases h
    exact Paints.refl _ _
  · rw [hrow] at h
    rcases hhead : hlineHead cfg o color x w row paintFuel x m with _ | ⟨m₁, _ | i⟩
    · simp only [hhead] at h
      cases h
    · simp only [hhead] at h
      cases h
      exact paints_hlineHead hhead
    · simp only [hhead] at h
      exact (paints_hlineHead hhead).trans (paints_rest h)

/-! ### The line -/

/-- A line from `k` columns left of the panel on ends before it has begun. -/
def Misses (k w : ℕ) : Prop := if k ≤ 8 then k ≤ w ∧ w ≤ 8 else k ≤ w ∨ w = 0

variable {k : ℕ}

/-- The end of such a line. -/
lemma toNat_left_add (hx : x.toNat + k = 2 ^ 32) (hk : 0 < k) (hw : w.toNat ≤ 65535) :
    (x + w).toNat = if k ≤ w.toNat then w.toNat - k else x.toNat + w.toNat := by
  rw [UInt32.toNat_add]
  split
  · rw [Nat.mod_eq_sub_mod (by omega), Nat.mod_eq_of_lt (by omega)]
    omega
  · rw [Nat.mod_eq_of_lt (by omega)]

/-- In the last eight columns before the panel there is no first byte. -/
lemma hlineHead_left (hx : x.toNat + k = 2 ^ 32) (hk : 0 < k) (hk' : k ≤ 8) :
    hlineHead cfg o color x w row (fuel + 1) x m = some (m, some x) := by
  rw [hlineHead, if_neg]
  rw [UInt32.lt_iff_toNat_lt, UInt32.toNat_add, toNat_and_not_seven]
  have hbyte : x.toNat / 8 * 8 = 2 ^ 32 - 8 := by omega
  rw [hbyte]
  exact Nat.not_lt_zero _

variable {y : UInt32}

variable (cfg color) in
/-- **Nothing is drawn** of such a line. -/
lemma drawHline_of_misses (hrow : o.bandRow y = some row) (hx : x.toNat + k = 2 ^ 32) (hk : 0 < k)
    (hw : w.toNat ≤ 65535) (h : Misses k w.toNat) (m : Frame) :
    drawHline cfg o color x y w m = some m := by
  obtain ⟨n, hfuel⟩ : ∃ n, paintFuel = n + 1 := ⟨2 ^ 32, rfl⟩
  have hend := toNat_left_add hx hk hw
  unfold Misses at h
  rw [drawHline, hrow]
  dsimp only
  rw [hfuel]
  by_cases hk' : k ≤ 8
  · rw [if_pos hk'] at h
    rw [if_pos h.1] at hend
    -- neither a whole byte nor a bit is left
    have hnext : (x + 8).toNat = 8 - k := by
      rw [UInt32.toNat_add]
      show (x.toNat + 8) % 2 ^ 32 = 8 - k
      omega
    have hbytes : ¬ x + 8 < x + w := by
      rw [UInt32.lt_iff_toNat_lt, hnext, hend]
      omega
    have htail : ¬ x < x + w := by
      rw [UInt32.lt_iff_toNat_lt, hend]
      omega
    rw [hlineHead_left hx hk hk']
    show (hlineBytes cfg o color x w row (n + 1) x m).bind _ = _
    rw [hlineBytes, if_neg hbytes]
    show hlineTail cfg o color x w row (n + 1) x m = _
    rw [hlineTail, if_neg htail]
  · rw [if_neg hk'] at h
    have hbyte : x < 8 + (x &&& ~~~ 7) := by
      rw [UInt32.lt_iff_toNat_lt, toNat_byteEnd (by omega), byteEnd]
      omega
    have hover : x ≥ x + w := by
      rw [ge_iff_le, UInt32.le_iff_toNat_le, hend]
      split <;> omega
    rw [hlineHead, if_pos hbyte, if_pos hover]
    rfl

/-- **Otherwise** a bit far behind the panel is painted. -/
lemma paintsAt_drawHline (hrow : o.bandRow y = some row) (hx : x.toNat + k = 2 ^ 32) (hk : 0 < k)
    (hw : w.toNat ≤ 65535) (h : ¬ Misses k w.toNat)
    (hline : drawHline cfg o color x y w m = some m') :
    PaintsAt (cfg.pen color) (o.byteIndex x row, cfg.bitOf x.toNat) m m' := by
  obtain ⟨n, hfuel⟩ : ∃ n, paintFuel = n + 1 := ⟨2 ^ 32, rfl⟩
  have hones : ∀ b < 8, bit 0xff b = true := by decide
  have hend := toNat_left_add hx hk hw
  unfold Misses at h
  rw [drawHline, hrow] at hline
  dsimp only at hline
  rw [hfuel] at hline
  by_cases hk' : k ≤ 8
  · rw [if_pos hk'] at h
    have hnext : (x + 8).toNat = 8 - k := by
      rw [UInt32.toNat_add]
      show (x.toNat + 8) % 2 ^ 32 = 8 - k
      omega
    have hbytes : x + 8 < x + w := by
      rw [UInt32.lt_iff_toNat_lt, hnext, hend]
      split <;> omega
    rw [hlineHead_left hx hk hk'] at hline
    change (hlineBytes cfg o color x w row (n + 1) x m).bind _ = _ at hline
    rw [hlineBytes, if_pos hbytes] at hline
    exact (paintsAt_setcolor cfg color _ (hones _ (cfg.bitOf_lt _)) m).trans (paints_rest hline)
  · rw [if_neg hk'] at h
    have hbyte : x < 8 + (x &&& ~~~ 7) := by
      rw [UInt32.lt_iff_toNat_lt, toNat_byteEnd (by omega), byteEnd]
      omega
    have hover : ¬ x ≥ x + w := by
      rw [ge_iff_le, UInt32.le_iff_toNat_le, hend]
      split <;> omega
    have hmask : bit (cfg.mask x) (cfg.bitOf x.toNat) = true :=
      (bit_mask cfg x (cfg.bitOf_lt _)).mpr rfl
    have hfirst := paintsAt_setcolor cfg color (o.byteIndex x row) hmask m
    rw [hlineHead, if_pos hbyte, if_neg hover] at hline
    refine hfirst.trans ?_
    rcases hhead : hlineHead cfg o color x w row n (x + 1)
      (setcolor cfg color (o.byteIndex x row) (cfg.mask x) m) with _ | ⟨m₁, _ | i⟩
    · simp only [hhead] at hline
      cases hline
    · simp only [hhead] at hline
      cases hline
      exact paints_hlineHead hhead
    · simp only [hhead] at hline
      exact (paints_hlineHead hhead).trans (paints_rest hline)

end Lines

/-! ### The rows -/

section Rows

variable {p : PaintRect} {m m' : Frame}

/-- Rows that draw nothing. -/
lemma fillRows_of_nothing (hlimit : p.y.toNat + p.height.toNat < 2 ^ 32)
    (h : ∀ i : UInt32, p.y.toNat ≤ i.toNat → i.toNat < p.y.toNat + p.height.toNat → ∀ m,
      drawHline cfg o color p.x i p.width m = some m) (m : Frame) :
    fillRows cfg o color p paintFuel p.y m = some m := by
  obtain ⟨m', hloop, hpaint⟩ := painted_fillRows cfg color hlimit
    (B := fun _ => ∅) (fun i hle hlt m => ⟨m, h i hle hlt m, Painted.refl _ m⟩) m
  have hempty : Painted (cfg.pen color) ∅ m m' := by
    refine hpaint.congr fun i b hb => ⟨?_, fun hin => hin.elim⟩
    rintro ⟨_, _, _, hin⟩
    exact hin
  rw [hloop, hempty.unique (Painted.refl _ m)]

lemma paints_fillRows {fuel : ℕ} {i : UInt32} (h : fillRows cfg o color p fuel i m = some m') :
    Paints (cfg.pen color) m m' := by
  induction fuel generalizing i m with
  | zero => cases h
  | succ fuel ih =>
      rw [fillRows] at h
      split at h
      · obtain ⟨m₁, hline, hrest⟩ := Option.bind_eq_some_iff.mp h
        exact (paints_drawHline hline).trans (ih hrest)
      · cases h
        exact Paints.refl _ _

/-- What one row paints is there in the end. -/
lemma paintsAt_fillRows (hlimit : p.y.toNat + p.height.toNat < 2 ^ 32) {q : UInt32 × ℕ} {j : UInt32}
    (hj : j.toNat < p.y.toNat + p.height.toNat)
    (hline : ∀ m m', drawHline cfg o color p.x j p.width m = some m' →
      PaintsAt (cfg.pen color) q m m') {fuel : ℕ} {i : UInt32} (hle : i.toNat ≤ j.toNat)
    (h : fillRows cfg o color p fuel i m = some m') : PaintsAt (cfg.pen color) q m m' := by
  have hsum : (p.y + p.height).toNat = p.y.toNat + p.height.toNat := toNat_add_of_lt hlimit
  induction fuel generalizing i m with
  | zero => cases h
  | succ fuel ih =>
      have hmore : i < p.y + p.height := by
        rw [UInt32.lt_iff_toNat_lt, hsum]
        omega
      rw [fillRows, if_pos hmore] at h
      obtain ⟨m₁, hfirst, hrest⟩ := Option.bind_eq_some_iff.mp h
      rcases Nat.eq_or_lt_of_le hle with heq | hlt
      · rw [UInt32.toNat_inj.mp heq] at hfirst
        exact (hline m m₁ hfirst).trans (paints_fillRows hrest)
      · have hnext : (i + 1).toNat = i.toNat + 1 := toNat_add_of_lt (by show i.toNat + 1 < _; omega)
        exact (paints_drawHline hfirst).trans_at (ih (by omega) hrest)

end Rows

/-! ## 90 degrees -/

section Rotated

variable {k : ℕ} {m m' : Frame}

lemma toPanelRect_d90 (hdir : o.direction = .d90) :
    o.toPanelRect r = ⟨o.width - (r.y + r.width), r.x, r.height, r.width⟩ := by
  unfold PaintObj.toPanelRect
  rw [hdir]

lemma InsideArea.d90 (hp : o.Prepared) (hdir : o.direction = .d90) (h : InsideArea o r) :
    r.x.toNat + r.width.toNat ≤ o.height.toNat ∧ r.y.toNat + r.height.toNat ≤ o.width.toNat := by
  have harea := hp.area
  simp only [hdir] at harea
  rw [← harea.1, ← harea.2]
  exact h

/-- The corner is `k` columns left of the panel. -/
lemma toNat_corner {a b c : UInt32} (h : b.toNat + c.toNat = a.toNat + k) (hk : 0 < k)
    (hsum : b.toNat + c.toNat < 2 ^ 32) : (a - (b + c)).toNat + k = 2 ^ 32 := by
  rw [UInt32.toNat_sub, toNat_add_of_lt hsum]
  omega

/-- A row that is not in the band. -/
lemma drawHline_of_not_keeps {x y w : UInt32} (hy : y.toNat < o.height.toNat)
    (h : ¬ o.Keeps (flipRow o y.toNat)) (m : Frame) : drawHline cfg o color x y w m = some m := by
  rw [drawHline, bandRow_eq hy, if_neg h]

/-- **Nothing is drawn** if the lines end before they have begun. -/
lemma paintFillRect_of_misses (hp : o.Prepared) (hsize : o.PanelSize) (hdir : o.direction = .d90)
    (h : InsideArea o r) (hk : 0 < k) (hcol : r.y.toNat + r.width.toNat = o.width.toNat + k)
    (hmiss : Misses k r.height.toNat) (m : Frame) : paintFillRect cfg o color r m = some m := by
  have harea := h.d90 hp hdir
  have hwidth := hsize.width
  have hheight := hsize.height
  rw [paintFillRect_of_insideArea hp hsize h, toPanelRect_d90 hdir]
  refine fillRows_of_nothing (by show r.x.toNat + r.width.toNat < _; omega) (fun i hle hlt m => ?_) m
  change i.toNat < r.x.toNat + r.width.toNat at hlt
  have hrow : i.toNat < o.height.toNat := by omega
  by_cases hkeeps : o.Keeps (flipRow o i.toNat)
  · exact drawHline_of_misses cfg color ((bandRow_eq hrow).trans (if_pos hkeeps))
      (toNat_corner hcol hk (by omega)) hk (by omega) hmiss m
  · exact drawHline_of_not_keeps hrow hkeeps m

/-- **Otherwise a bit behind the panel is painted**, if a row is in the band. -/
lemma paintsAt_paintFillRect (hp : o.Prepared) (hsize : o.PanelSize) (hdir : o.direction = .d90)
    (h : InsideArea o r) (hk : 0 < k) (hcol : r.y.toNat + r.width.toNat = o.width.toNat + k)
    (hmiss : ¬ Misses k r.height.toNat) {j : ℕ}
    (hj : r.x.toNat ≤ j ∧ j < r.x.toNat + r.width.toNat) (hkeeps : o.Keeps (flipRow o j))
    (hfill : paintFillRect cfg o color r m = some m') :
    PaintsAt (cfg.pen color) (o.byteIndex (o.width - (r.y + r.width))
      (UInt32.ofNat (flipRow o j - o.firstRow)), cfg.bitOf (o.width - (r.y + r.width)).toNat) m m' := by
  have harea := h.d90 hp hdir
  have hwidth := hsize.width
  have hheight := hsize.height
  have hrow : (UInt32.ofNat j).toNat = j := by
    rw [UInt32.toNat_ofNat', Nat.mod_eq_of_lt (by omega)]
  rw [paintFillRect_of_insideArea hp hsize h, toPanelRect_d90 hdir] at hfill
  refine paintsAt_fillRows (j := UInt32.ofNat j) (by show r.x.toNat + r.width.toNat < _; omega)
    (by rw [hrow]; exact hj.2) (fun m m' hline => ?_) (by rw [hrow]; exact hj.1) hfill
  refine paintsAt_drawHline ?_ (toNat_corner hcol hk (by omega)) hk (by omega) hmiss hline
  rw [bandRow_eq (by rw [hrow]; omega), hrow, if_pos hkeeps]

/-- The bit behind the panel is not one of the panel. -/
lemma not_mem_pointBits_corner (hp : o.Prepared) (hsize : o.PanelSize) (h : InsideArea o r)
    {x : UInt32} (hx : x.toNat + k = 2 ^ 32) (hk : k ≤ 65535) {n b : ℕ} (hn : n < o.height.toNat) :
    (o.byteIndex x (UInt32.ofNat (n - o.firstRow)), b) ∉ pointBits cfg o r := by
  have hwidth := hsize.width
  have hheight := hsize.height
  rintro ⟨px, py, hpx, hpy, -, hindex, -⟩
  have harea := panelPoint_lt (h.inArea hp hpx.2 hpy.2)
  have hmul : ∀ {n : ℕ}, n < o.height.toNat →
      (n - o.firstRow) * (o.width.toNat / 8) ≤ 65534 * 8191 := fun hn =>
    Nat.mul_le_mul (by omega) (by omega)
  have hrow := hmul hn
  have hrow' := hmul harea.2
  have hn' : (UInt32.ofNat (n - o.firstRow)).toNat = n - o.firstRow := by
    rw [UInt32.toNat_ofNat', Nat.mod_eq_of_lt (by omega)]
  dsimp only at hindex
  rw [byteIndex_eq, hn', rowByte, rowByte, ofNat_inj_of_lt (by omega) (by omega)] at hindex
  omega

/-! ### The sides differ -/

/-- What the points leave on a blank frame. -/
lemma FillsLikePoints.blank (hp : o.Prepared) (hsize : o.PanelSize) (h : InsideArea o r)
    (hfills : FillsLikePoints cfg o color r) :
    ∃ m', paintFillRect cfg o color r (blank (cfg.pen color)) = some m'
      ∧ Painted (cfg.pen color) (pointBits cfg o r) (Bitmap.blank (cfg.pen color)) m' :=
  ⟨_, hfills _ (List.Perm.refl _) _,
    painted_rectPoints cfg color hp hsize h (List.Perm.refl _) _⟩

/-- The place of the points at 90 degrees. -/
lemma pointBits_d90 (hp : o.Prepared) (h : InsideArea o r) (hdir : o.direction = .d90) :
    pointBits cfg o r = boxBits cfg o (o.width.toNat - (r.y.toNat + r.height.toNat)) r.x.toNat
      r.height.toNat r.width.toNat := by
  rw [pointBits_eq hp h, hdir]

/-- On the panel, the rectangle is drawn beside its place. -/
lemma side_of_fillsLikePoints (hp : o.Prepared) (hsize : o.PanelSize) (h : InsideArea o r)
    (hdir : o.direction = .d90) (hcol : r.y.toNat + r.width.toNat ≤ o.width.toNat)
    (hheight : 0 < r.height.toNat)
    (hkeeps : ∃ j, (r.x.toNat ≤ j ∧ j < r.x.toNat + r.width.toNat) ∧ o.Keeps (flipRow o j))
    (hfills : FillsLikePoints cfg o color r) : r.width = r.height := by
  obtain ⟨on, hpen⟩ : ∃ on, cfg.pen color .wb = some on := ⟨_, rfl⟩
  have harea := h.d90 hp hdir
  have hwidth := hsize.width
  obtain ⟨m', hfill, hpoints⟩ := hfills.blank hp hsize h
  obtain ⟨m₁, hfill', hbox⟩ :=
    painted_paintFillRect cfg color hp hsize h (fun _ => hcol) (blank _)
  obtain rfl := Option.some.inj (hfill'.symm.trans hfill)
  rw [pointBits_d90 hp h hdir] at hpoints
  rw [toPanelRect_d90 hdir] at hbox
  dsimp only at hbox
  rw [toNat_sub_add hcol] at hbox
  have hcolumn := boxBits_column hsize harea.1 hheight (by omega) (by omega) hkeeps
    fun i b hb => (hpoints.mem_iff hpen hb).trans (hbox.mem_iff hpen hb).symm
  exact UInt32.toNat_inj.mp (by omega)

/-- Lines that end before they have begun leave the points out. -/
lemma not_fillsLikePoints_of_misses (hp : o.Prepared) (hsize : o.PanelSize) (h : InsideArea o r)
    (hdir : o.direction = .d90) (hk : 0 < k) (hcol : r.y.toNat + r.width.toNat = o.width.toNat + k)
    (hmiss : Misses k r.height.toNat) (hheight : 0 < r.height.toNat)
    (hkeeps : ∃ j, (r.x.toNat ≤ j ∧ j < r.x.toNat + r.width.toNat) ∧ o.Keeps (flipRow o j)) :
    ¬ FillsLikePoints cfg o color r := by
  intro hfills
  obtain ⟨on, hpen⟩ : ∃ on, cfg.pen color .wb = some on := ⟨_, rfl⟩
  obtain ⟨j, hj, hkeeps⟩ := hkeeps
  obtain ⟨m', hfill, hpoints⟩ := hfills.blank hp hsize h
  rw [paintFillRect_of_misses hp hsize hdir h hk hcol hmiss] at hfill
  obtain rfl := Option.some.inj hfill
  -- the first point of this row
  have hpoint : (UInt32.ofNat (rowByte (o.width.toNat / 8)
      (o.width.toNat - (r.y.toNat + r.height.toNat)) (flipRow o j - o.firstRow)),
      cfg.bitOf (o.width.toNat - (r.y.toNat + r.height.toNat))) ∈ pointBits cfg o r := by
    rw [pointBits_d90 hp h hdir]
    exact ⟨j, _, hj, ⟨Nat.le_refl _, Nat.lt_add_of_pos_right hheight⟩, hkeeps, rfl, rfl⟩
  have hbit := (hpoints.mem_iff hpen (cfg.bitOf_lt _)).mp hpoint
  exact ((Painted.refl _ _).mem_iff hpen (cfg.bitOf_lt _)).mpr hbit

/-- Lines that do not, paint behind the panel, or do not end. -/
lemma not_fillsLikePoints_of_not_misses (hp : o.Prepared) (hsize : o.PanelSize)
    (h : InsideArea o r) (hdir : o.direction = .d90) (hk : 0 < k)
    (hcol : r.y.toNat + r.width.toNat = o.width.toNat + k) (hmiss : ¬ Misses k r.height.toNat)
    (hkeeps : ∃ j, (r.x.toNat ≤ j ∧ j < r.x.toNat + r.width.toNat) ∧ o.Keeps (flipRow o j)) :
    ¬ FillsLikePoints cfg o color r := by
  intro hfills
  obtain ⟨on, hpen⟩ : ∃ on, cfg.pen color .wb = some on := ⟨_, rfl⟩
  obtain ⟨j, hj, hkeeps⟩ := hkeeps
  have hsmall := hp.insideArea_le hsize h
  have harea := h.d90 hp hdir
  have hheight := hsize.height
  obtain ⟨m', hfill, hpoints⟩ := hfills.blank hp hsize h
  obtain ⟨S, hq, hpaint⟩ := paintsAt_paintFillRect hp hsize hdir h hk hcol hmiss hj hkeeps hfill
  have hbit := (hpaint.mem_iff hpen (cfg.bitOf_lt _)).mp hq
  refine not_mem_pointBits_corner hp hsize h (toNat_corner hcol hk (by omega)) ?_
    (flipRow_lt (by omega)) ((hpoints.mem_iff hpen (cfg.bitOf_lt _)).mpr hbit)
  omega

end Rotated

/-! ## Where both agree -/

/-- Nothing to draw, and nothing is drawn. -/
lemma fillsLikePoints_of_nothing (hp : o.Prepared) (hsize : o.PanelSize) (h : InsideArea o r)
    (hempty : ∀ q, q ∉ pointBits cfg o r) (hnothing : ∀ m, paintFillRect cfg o color r m = some m) :
    FillsLikePoints cfg o color r := by
  intro ps hperm m
  have hpoints := painted_rectPoints cfg color hp hsize h hperm m
  rw [Set.eq_empty_iff_forall_notMem.mpr hempty] at hpoints
  rw [hnothing, hpoints.unique (Painted.refl _ m)]

/-- No row of the rectangle is in the band. -/
lemma fillsLikePoints_of_no_row (hp : o.Prepared) (hsize : o.PanelSize) (h : InsideArea o r)
    (hdir : o.direction = .d90)
    (hrows : ∀ row, r.x.toNat ≤ row → row < r.x.toNat + r.width.toNat → ¬ o.Keeps (flipRow o row)) :
    FillsLikePoints cfg o color r := by
  have harea := h.d90 hp hdir
  have hheight := o.height.toNat_lt
  refine fillsLikePoints_of_nothing hp hsize h ?_ fun m => ?_
  · intro q hq
    rw [pointBits_d90 hp h hdir] at hq
    obtain ⟨row, c, hrow, -, hkeeps, -⟩ := hq
    exact hrows row hrow.1 hrow.2 hkeeps
  · rw [paintFillRect_of_insideArea hp hsize h, toPanelRect_d90 hdir]
    refine fillRows_of_nothing (by show r.x.toNat + r.width.toNat < _; omega)
      (fun i hle hlt m => ?_) m
    change r.x.toNat ≤ i.toNat at hle
    change i.toNat < r.x.toNat + r.width.toNat at hlt
    exact drawHline_of_not_keeps (by omega) (hrows i.toNat hle hlt) m

/-- The rectangle has no points, and its corner is on the panel or more than a byte left of it. -/
lemma fillsLikePoints_of_no_points (hp : o.Prepared) (hsize : o.PanelSize) (h : InsideArea o r)
    (hdir : o.direction = .d90) (hheight : r.height.toNat = 0)
    (hcol : ¬ (o.width.toNat < r.y.toNat + r.width.toNat
      ∧ r.y.toNat + r.width.toNat ≤ o.width.toNat + 8)) : FillsLikePoints cfg o color r := by
  refine fillsLikePoints_of_nothing hp hsize h ?_ fun m => ?_
  · rintro q ⟨x, y, -, hy, -⟩
    omega
  · by_cases hon : r.y.toNat + r.width.toNat ≤ o.width.toNat
    · obtain ⟨m', hfill, hbox⟩ :=
        painted_paintFillRect cfg color hp hsize h (fun _ => hon) m
      rw [toPanelRect_d90 hdir] at hbox
      have hempty : Painted (cfg.pen color) ∅ m m' := by
        refine hbox.congr fun i b hb => ⟨?_, fun hin => hin.elim⟩
        rintro ⟨row, c, -, hc, -⟩
        change _ ≤ c ∧ c < _ + r.height.toNat at hc
        omega
      rw [hfill, hempty.unique (Painted.refl _ m)]
    · obtain ⟨k, hk⟩ := Nat.exists_eq_add_of_lt (Nat.not_le.mp hon)
      refine paintFillRect_of_misses (k := k + 1) hp hsize hdir h (Nat.succ_pos k) hk ?_ m
      rw [Misses, if_neg (by omega)]
      exact .inr hheight

/-- **When a filled rectangle is its points.**  Always but at 90 degrees.  There the sides are equal, or
none of its rows is in the band, or it has no points and nothing is drawn in their place. -/
theorem fillsLikePoints_iff (cfg : PaintConfig) (o : PaintObj) (direction : PaintDirection)
    (yStart : UInt32) (color : PaintColor) (r : PaintRect) (hsize : o.PanelSize)
    (h : InsideArea (o.prepared direction yStart) r) :
    let p := o.prepared direction yStart
    FillsLikePoints cfg p color r ↔
      direction ≠ .d90 ∨ r.width = r.height
        ∨ (∀ row, r.x.toNat ≤ row → row < r.x.toNat + r.width.toNat → ¬ p.Keeps (flipRow p row))
        ∨ r.height = 0 ∧ ¬ (o.width.toNat < r.y.toNat + r.width.toNat
          ∧ r.y.toNat + r.width.toNat ≤ o.width.toNat + 8) := by
  intro p
  have hp : p.Prepared := o.prepared_prepared direction yStart
  have hwidth : p.width = o.width := prepared_width o direction yStart
  have hdir : p.direction = direction := prepared_direction o direction yStart
  have hsize' : p.PanelSize := by
    constructor
    · rw [hwidth]
      exact hsize.width
    · rw [prepared_height]
      exact hsize.height
    · rw [hwidth]
      exact hsize.bytes
  have hzero : r.height = 0 ↔ r.height.toNat = 0 := UInt32.toNat_inj.symm
  rw [← hwidth, hzero]
  constructor
  · intro hfills
    by_contra hnot
    simp only [not_or, not_not] at hnot
    obtain ⟨rfl, hside, hrows, hempty⟩ := hnot
    have hkeeps : ∃ j, (r.x.toNat ≤ j ∧ j < r.x.toNat + r.width.toNat) ∧ p.Keeps (flipRow p j) := by
      by_contra hnone
      exact hrows fun row hle hlt hkeeps => hnone ⟨row, ⟨hle, hlt⟩, hkeeps⟩
    by_cases hcol : r.y.toNat + r.width.toNat ≤ p.width.toNat
    · have hheight : 0 < r.height.toNat := by omega
      exact hside (side_of_fillsLikePoints hp hsize' h hdir hcol hheight hkeeps hfills)
    · obtain ⟨k, hk⟩ := Nat.exists_eq_add_of_lt (Nat.not_le.mp hcol)
      by_cases hmiss : Misses (k + 1) r.height.toNat
      · have hheight : 0 < r.height.toNat := by
          refine Nat.pos_of_ne_zero fun hz => ?_
          rw [Misses, if_pos (by omega)] at hmiss
          omega
        exact not_fillsLikePoints_of_misses hp hsize' h hdir (Nat.succ_pos k) hk hmiss hheight hkeeps
          hfills
      · exact not_fillsLikePoints_of_not_misses hp hsize' h hdir (Nat.succ_pos k) hk hmiss hkeeps
          hfills
  · intro hcond
    by_cases h90 : direction = .d90
    · rcases hcond with hne | hside | hrows | ⟨hheight, hcol⟩
      · exact absurd h90 hne
      · exact fillsLikePoints_of_side hp hsize' h fun _ => hside
      · exact fillsLikePoints_of_no_row hp hsize' h (hdir.trans h90) hrows
      · exact fillsLikePoints_of_no_points hp hsize' h (hdir.trans h90) hheight hcol
    · exact fillsLikePoints_of_side hp hsize' h fun hd => absurd (hdir.symm.trans hd) h90

/-- A panel of eight rows and columns, and a black rectangle in its corner. -/
def panel8 : PaintObj := ⟨.mode1, .d0, 8, 8, 0, 0, 0, 0, 0⟩

lemma panel8_panelSize : panel8.PanelSize := ⟨by decide, by decide, by decide⟩

/-- A square is its points on this panel at 90 degrees. -/
theorem fillsLikePoints_iff_square :
    FillsLikePoints ⟨false, false, false, true⟩ (panel8.prepared .d90 0) .black ⟨1, 0, 2, 2⟩ :=
  (fillsLikePoints_iff _ _ _ _ _ _ panel8_panelSize ⟨by decide, by decide⟩).mpr (.inr (.inl rfl))

/-- A rectangle with one column and two rows is drawn as the last pixel of a row, and the first of the
next one. -/
theorem not_fillsLikePoints : panel8.PanelSize ∧ InsideArea (panel8.prepared .d90 0) ⟨0, 0, 1, 2⟩
    ∧ ¬ FillsLikePoints ⟨false, false, false, true⟩ (panel8.prepared .d90 0) .black ⟨0, 0, 1, 2⟩ := by
  refine ⟨panel8_panelSize, ⟨by decide, by decide⟩, fun h => ?_⟩
  have hframe := h _ (List.Perm.refl _) fun _ _ => 0xff
  have hbyte := congrArg (Option.map fun m => m .wb 0) hframe
  exact absurd hbyte (by decide +kernel)

end NrfEsl
