import Mathlib.Algebra.Order.Ring.Int
import NrfEsl.Tag.Paint

/-!
# The place of a pixel

`paint_DrawPoint` rotates a point, flips its row and takes off the first row of the band; what is left is
a row of `width / 8` bytes and a bit in it.

* **On the panel** each point of the drawing area has a pixel of its own (`panelPoint_injective`).
* **In the buffer** the last pixels of a row that does not end with a byte fall on the next row.
* **The buffer** has `band_height` rows, computed with 32 bits.

`addresses_iff` is for which panels and bands every visible pixel has a place of its own in the buffer.
-/

namespace NrfEsl

open Bitmap

/-- The object after `paint_Init`, `paint_SetDirection` and `paint_SetBand`. -/
def PaintObj.prepared (o : PaintObj) (direction : PaintDirection) (yStart : UInt32) : PaintObj :=
  (o.init.setDirection direction).setBand yStart

section

variable (o : PaintObj) (direction : PaintDirection) (yStart : UInt32)

@[simp] lemma prepared_direction : (o.prepared direction yStart).direction = direction := by
  simp [PaintObj.prepared, PaintObj.setBand]

@[simp] lemma prepared_scanmode : (o.prepared direction yStart).scanmode = o.scanmode := by
  simp [PaintObj.prepared, PaintObj.setBand, PaintObj.init]

@[simp] lemma prepared_width : (o.prepared direction yStart).width = o.width := by
  simp [PaintObj.prepared, PaintObj.setBand, PaintObj.init]

@[simp] lemma prepared_height : (o.prepared direction yStart).height = o.height := by
  simp [PaintObj.prepared, PaintObj.setBand, PaintObj.init]

@[simp] lemma prepared_bandHeight : (o.prepared direction yStart).bandHeight = o.bandHeight := by
  simp [PaintObj.prepared, PaintObj.setBand, PaintObj.init]

@[simp] lemma prepared_bandYStart : (o.prepared direction yStart).bandYStart = yStart := rfl

@[simp] lemma prepared_bufferSize : (o.prepared direction yStart).bufferSize
    = (if o.bandHeight ≠ 0 then o.bandHeight else o.height) * (o.width / 8) := by
  simp [PaintObj.prepared, PaintObj.setBand, PaintObj.init]

end

/-! ## Specification -/

/-- The drawing area: the panel, on its side in two of the directions. -/
def InArea (o : PaintObj) (x y : ℕ) : Prop :=
  match o.direction with
  | .d0 | .d180 => x < o.width.toNat ∧ y < o.height.toNat
  | .d90 | .d270 => x < o.height.toNat ∧ y < o.width.toNat

/-- The row in scan mode 2. -/
def flipRow (o : PaintObj) (row : ℕ) : ℕ :=
  if o.scanmode = .mode2 then o.height.toNat - 1 - row else row

/-- The column and the row on the panel. -/
def panelPoint (o : PaintObj) (x y : ℕ) : ℕ × ℕ :=
  let p :=
    match o.direction with
    | .d0 => (x, y)
    | .d90 => (o.width.toNat - 1 - y, x)
    | .d180 => (o.width.toNat - 1 - x, o.height.toNat - 1 - y)
    | .d270 => (y, o.height.toNat - 1 - x)
  (p.1, flipRow o p.2)

/-- The rows of the band; without bands all of them. -/
def InBand (o : PaintObj) (row : ℕ) : Prop :=
  o.bandHeight = 0 ∨ o.bandYStart.toNat ≤ row ∧ row < o.bandYStart.toNat + o.bandHeight.toNat

/-- A point that is to be drawn. -/
def Visible (o : PaintObj) (x y : UInt32) : Prop :=
  InArea o x.toNat y.toNat ∧ InBand o (panelPoint o x.toNat y.toNat).2

/-- Visible points have a place in the buffer, no two of them the same, and other points have none. -/
structure Addresses (cfg : PaintConfig) (o : PaintObj) : Prop where
  inside : ∀ x y, Visible o x y → ∃ t, pointTarget cfg o x y = some t ∧ t.1 < o.bufferSize
  distinct : ∀ x y x' y', Visible o x y → Visible o x' y' →
    pointTarget cfg o x y = pointTarget cfg o x' y' → x = x' ∧ y = y'
  outside : ∀ x y, ¬ Visible o x y → pointTarget cfg o x y = none

/-! ## Points of the panel -/

section Panel

variable {o : PaintObj} {x y x' y' : ℕ}

lemma panelPoint_lt (h : InArea o x y) :
    (panelPoint o x y).1 < o.width.toNat ∧ (panelPoint o x y).2 < o.height.toNat := by
  unfold InArea at h
  unfold panelPoint
  dsimp only
  constructor
  · cases hdir : o.direction <;> simp only [hdir] at h ⊢ <;> omega
  · cases hdir : o.direction <;> simp only [hdir, flipRow] at h ⊢ <;> split <;> omega

/-- **Each point has a pixel of its own.** -/
theorem panelPoint_injective (h : InArea o x y) (h' : InArea o x' y')
    (heq : panelPoint o x y = panelPoint o x' y') : x = x' ∧ y = y' := by
  unfold InArea at h h'
  unfold panelPoint at heq
  dsimp only at heq
  obtain ⟨hcol, hrow⟩ := Prod.mk.injEq .. ▸ heq
  cases hdir : o.direction <;> simp only [hdir, flipRow] at h h' hcol hrow <;>
    split at hrow <;> omega

/-- Each pixel is that of a point. -/
lemma exists_panelPoint {c r : ℕ} (hc : c < o.width.toNat) (hr : r < o.height.toNat) :
    ∃ x y : UInt32, InArea o x.toNat y.toNat ∧ panelPoint o x.toNat y.toNat = (c, r) := by
  have hof : ∀ {n k : ℕ}, k < n → n < 2 ^ 32 → (UInt32.ofNat k).toNat = k := by
    intro n k hk hn
    rw [UInt32.toNat_ofNat', Nat.mod_eq_of_lt (by omega)]
  have hw := o.width.toNat_lt
  have hh := o.height.toNat_lt
  -- the row before it is flipped
  have hflip : ∃ q < o.height.toNat, flipRow o q = r := by
    unfold flipRow
    by_cases hscan : o.scanmode = .mode2
    · exact ⟨o.height.toNat - 1 - r, by omega, by rw [if_pos hscan]; omega⟩
    · exact ⟨r, hr, by rw [if_neg hscan]⟩
  obtain ⟨q, hq, hqr⟩ := hflip
  unfold InArea panelPoint
  cases hdir : o.direction with
  | d0 =>
      refine ⟨UInt32.ofNat c, UInt32.ofNat q, ?_⟩
      rw [hof hc hw, hof hq hh]
      exact ⟨⟨hc, hq⟩, Prod.ext rfl hqr⟩
  | d90 =>
      refine ⟨UInt32.ofNat q, UInt32.ofNat (o.width.toNat - 1 - c), ?_⟩
      rw [hof hq hh, hof (by omega : o.width.toNat - 1 - c < o.width.toNat) hw]
      refine ⟨⟨hq, by omega⟩, Prod.ext ?_ hqr⟩
      show o.width.toNat - 1 - (o.width.toNat - 1 - c) = c
      omega
  | d180 =>
      refine ⟨UInt32.ofNat (o.width.toNat - 1 - c), UInt32.ofNat (o.height.toNat - 1 - q), ?_⟩
      rw [hof (by omega : o.width.toNat - 1 - c < o.width.toNat) hw,
        hof (by omega : o.height.toNat - 1 - q < o.height.toNat) hh]
      have hcol : o.width.toNat - 1 - (o.width.toNat - 1 - c) = c := by omega
      have hrow : o.height.toNat - 1 - (o.height.toNat - 1 - q) = q := by omega
      dsimp only
      rw [hcol, hrow]
      exact ⟨⟨by omega, by omega⟩, Prod.ext rfl hqr⟩
  | d270 =>
      refine ⟨UInt32.ofNat (o.height.toNat - 1 - q), UInt32.ofNat c, ?_⟩
      rw [hof (by omega : o.height.toNat - 1 - q < o.height.toNat) hh, hof hc hw]
      have hrow : o.height.toNat - 1 - (o.height.toNat - 1 - q) = q := by omega
      dsimp only
      rw [hrow]
      exact ⟨⟨by omega, hc⟩, Prod.ext rfl hqr⟩

end Panel

/-! ## The place in the buffer -/

/-- What `paint_Init` and `paint_SetDirection` compute. -/
structure PaintObj.Prepared (o : PaintObj) : Prop where
  area : match o.direction with
    | .d0 | .d180 => o.xEnd = o.width ∧ o.yEnd = o.height
    | .d90 | .d270 => o.xEnd = o.height ∧ o.yEnd = o.width
  bufferSize : o.bufferSize
    = (if o.bandHeight ≠ 0 then o.bandHeight else o.height) * (o.width / 8)

lemma PaintObj.prepared_prepared (o : PaintObj) (direction : PaintDirection) (yStart : UInt32) :
    (o.prepared direction yStart).Prepared := by
  constructor
  · cases direction <;> exact ⟨rfl, rfl⟩
  · simp only [prepared_bufferSize, prepared_bandHeight, prepared_height, prepared_width]

section Buffer

variable {cfg : PaintConfig} {o : PaintObj} {x y : UInt32}

/-- The first row that is in the buffer. -/
def PaintObj.firstRow (o : PaintObj) : ℕ := if o.bandHeight = 0 then 0 else o.bandYStart.toNat

/-- The rows that the code keeps: the end of the band is computed with 32 bits. -/
def PaintObj.Keeps (o : PaintObj) (row : ℕ) : Prop :=
  o.bandHeight = 0 ∨ o.bandYStart.toNat ≤ row ∧ row < (o.bandYStart + o.bandHeight).toNat

instance (row : ℕ) : Decidable (o.Keeps row) := inferInstanceAs (Decidable (_ ∨ _))

/-- Two numbers of 32 bits. -/
lemma ofNat_inj_of_lt {a b : ℕ} (ha : a < 2 ^ 32) (hb : b < 2 ^ 32) :
    UInt32.ofNat a = UInt32.ofNat b ↔ a = b := by
  rw [← UInt32.toNat_inj, UInt32.toNat_ofNat', UInt32.toNat_ofNat', Nat.mod_eq_of_lt ha,
    Nat.mod_eq_of_lt hb]

lemma toNat_sub_sub_one {a b : UInt32} (h : b.toNat < a.toNat) :
    (a - b - 1).toNat = a.toNat - 1 - b.toNat := by
  have hle : b ≤ a := UInt32.le_iff_toNat_le.mpr (Nat.le_of_lt h)
  have hsub := UInt32.toNat_sub_of_le _ _ hle
  have hone : (1 : UInt32) ≤ a - b := UInt32.le_iff_toNat_le.mpr (by
    rw [hsub]
    show 1 ≤ _
    omega)
  rw [UInt32.toNat_sub_of_le _ _ hone, hsub]
  show a.toNat - b.toNat - 1 = _
  omega

/-- **The row in the buffer.** -/
lemma bandRow_eq (hy : y.toNat < o.height.toNat) :
    o.bandRow y = if o.Keeps (flipRow o y.toNat) then
      some (UInt32.ofNat (flipRow o y.toNat - o.firstRow)) else none := by
  have hflip : ∃ row : UInt32, row.toNat = flipRow o y.toNat
      ∧ (if o.scanmode = .mode2 then o.height - y - 1 else y) = row := by
    unfold flipRow
    split
    · exact ⟨_, toNat_sub_sub_one hy, rfl⟩
    · exact ⟨_, rfl, rfl⟩
  obtain ⟨row, hrow, hcode⟩ := hflip
  rw [PaintObj.bandRow, hcode, ← hrow, PaintObj.firstRow]
  by_cases hband : o.bandHeight = 0
  · have hkeeps : o.Keeps row.toNat := .inl hband
    rw [if_neg (not_not_intro hband), if_pos hkeeps, if_pos hband, Nat.sub_zero,
      UInt32.ofNat_toNat]
  · rw [if_pos hband, if_neg hband]
    have hkeeps : (row < o.bandYStart ∨ row ≥ o.bandYStart + o.bandHeight)
        ↔ ¬ o.Keeps row.toNat := by
      rw [PaintObj.Keeps, or_iff_right hband, UInt32.lt_iff_toNat_lt, ge_iff_le,
        UInt32.le_iff_toNat_le]
      omega
    by_cases hout : row < o.bandYStart ∨ row ≥ o.bandYStart + o.bandHeight
    · rw [if_pos hout, if_neg (hkeeps.mp hout)]
    · have hin : o.Keeps row.toNat := not_not.mp fun h => hout (hkeeps.mpr h)
      rw [if_neg hout, if_pos hin]
      have hle := (hin.resolve_left hband).1
      have hlt := row.toNat_lt
      refine congrArg some (UInt32.toNat_inj.mp ?_)
      rw [UInt32.toNat_sub_of_le _ _ (UInt32.le_iff_toNat_le.mpr hle), UInt32.toNat_ofNat',
        Nat.mod_eq_of_lt (by omega)]

/-- **The byte of a pixel.** -/
lemma byteIndex_eq (o : PaintObj) (x y : UInt32) :
    o.byteIndex x y = UInt32.ofNat (rowByte (o.width.toNat / 8) x.toNat y.toNat) := by
  refine UInt32.toNat_inj.mp ?_
  rw [PaintObj.byteIndex, rowByte, UInt32.toNat_add, UInt32.toNat_mul, UInt32.toNat_div,
    UInt32.toNat_div, UInt32.toNat_ofNat', Nat.mod_add_mod]
  rfl

lemma toPanel_toNat (h : InArea o x.toNat y.toNat) :
    (o.toPanel x y).1.toNat = (panelPoint o x.toNat y.toNat).1
      ∧ flipRow o (o.toPanel x y).2.toNat = (panelPoint o x.toNat y.toNat).2
      ∧ (o.toPanel x y).2.toNat < o.height.toNat := by
  unfold InArea at h
  unfold panelPoint PaintObj.toPanel
  cases hdir : o.direction with
  | d0 =>
      simp only [hdir, true_and] at h ⊢
      exact h.2
  | d90 =>
      simp only [hdir, true_and] at h ⊢
      exact ⟨toNat_sub_sub_one h.2, h.1⟩
  | d180 =>
      simp only [hdir] at h ⊢
      rw [toNat_sub_sub_one h.1, toNat_sub_sub_one h.2]
      exact ⟨rfl, rfl, by omega⟩
  | d270 =>
      simp only [hdir, true_and] at h ⊢
      rw [toNat_sub_sub_one h.1]
      exact ⟨rfl, by omega⟩

lemma inArea_iff (hp : o.Prepared) :
    InArea o x.toNat y.toNat ↔ ¬ (x ≥ o.xEnd ∨ y ≥ o.yEnd) := by
  have harea := hp.area
  unfold InArea
  cases hdir : o.direction <;> simp only [hdir] at harea ⊢ <;>
    rw [harea.1, harea.2, ge_iff_le, ge_iff_le, UInt32.le_iff_toNat_le, UInt32.le_iff_toNat_le] <;>
    omega

/-- **What `paint_DrawPoint` writes**: the byte and the bit of the pixel, if its row is kept. -/
theorem pointTarget_of_inArea (hp : o.Prepared) (h : InArea o x.toNat y.toNat) :
    pointTarget cfg o x y
      = if o.Keeps (panelPoint o x.toNat y.toNat).2 then
          some (UInt32.ofNat (rowByte (o.width.toNat / 8) (panelPoint o x.toNat y.toNat).1
            ((panelPoint o x.toNat y.toNat).2 - o.firstRow)), cfg.mask (o.toPanel x y).1)
        else none := by
  obtain ⟨hcol, hrow, hlt⟩ := toPanel_toNat h
  have hrowLt := (panelPoint_lt h).2
  have hheight := o.height.toNat_lt
  rw [pointTarget, if_neg ((inArea_iff hp).mp h)]
  dsimp only
  rw [bandRow_eq hlt, hrow]
  split
  · rw [Option.map_some, byteIndex_eq, hcol, UInt32.toNat_ofNat', Nat.mod_eq_of_lt (by omega)]
  · rfl

lemma pointTarget_of_not_inArea (hp : o.Prepared) (h : ¬ InArea o x.toNat y.toNat) :
    pointTarget cfg o x y = none := by
  rw [inArea_iff hp, not_not] at h
  rw [pointTarget, if_pos h]

/-- The bit of a column. -/
def PaintConfig.bitOf (cfg : PaintConfig) (c : ℕ) : ℕ := if cfg.msbFirst then 7 - c % 8 else c % 8

lemma PaintConfig.bitOf_lt (cfg : PaintConfig) (c : ℕ) : cfg.bitOf c < 8 := by
  unfold bitOf
  split <;> omega

lemma PaintConfig.bitOf_inj {c c' : ℕ} : cfg.bitOf c = cfg.bitOf c' ↔ c % 8 = c' % 8 := by
  unfold bitOf
  split <;> omega

/-- **The mask of a pixel** has the bit of its column. -/
lemma bit_mask (cfg : PaintConfig) (x : UInt32) {b : ℕ} (hb : b < 8) :
    bit (cfg.mask x) b = true ↔ b = cfg.bitOf x.toNat := by
  have hmod : x % 8 = UInt32.ofNat (x.toNat % 8) := by
    refine UInt32.toNat_inj.mp ?_
    rw [UInt32.toNat_mod, UInt32.toNat_ofNat']
    have hlt : x.toNat % 8 < 2 ^ 32 := by omega
    exact (Nat.mod_eq_of_lt hlt).symm
  have hall : ∀ n < 8, ∀ b < 8,
      (bit (1 <<< (7 - UInt32.ofNat n).toUInt8) b = true ↔ b = 7 - n)
        ∧ (bit (1 <<< (UInt32.ofNat n).toUInt8) b = true ↔ b = n) := by decide +kernel
  obtain ⟨hmsb, hlsb⟩ := hall (x.toNat % 8) (Nat.mod_lt _ (by decide)) b hb
  rw [PaintConfig.mask, PaintConfig.bitOf, hmod]
  split
  · exact hmsb
  · exact hlsb

lemma mask_inj {x x' : UInt32} (h : cfg.mask x = cfg.mask x') : x.toNat % 8 = x'.toNat % 8 := by
  have hbit := (bit_mask cfg x (cfg.bitOf_lt x.toNat)).mpr rfl
  rw [h, bit_mask cfg x' (cfg.bitOf_lt _)] at hbit
  exact PaintConfig.bitOf_inj.mp hbit

end Buffer

/-! ## Panels and bands -/

section Addresses

variable {cfg : PaintConfig} {o : PaintObj}

/-- The end of the band on the panel. -/
def PaintObj.lastRow (o : PaintObj) : ℕ :=
  if o.bandHeight = 0 then o.height.toNat
  else min (o.bandYStart.toNat + o.bandHeight.toNat) o.height.toNat

/-- How many rows of the panel are in the band. -/
def PaintObj.visibleRows (o : PaintObj) : ℕ := o.lastRow - o.firstRow

/-- The end of the band is a number of 32 bits. -/
def PaintObj.EndFits (o : PaintObj) : Prop :=
  o.bandHeight = 0 ∨ o.bandYStart.toNat + o.bandHeight.toNat < 2 ^ 32

lemma inBand_iff {row : ℕ} (hrow : row < o.height.toNat) :
    InBand o row ↔ o.firstRow ≤ row ∧ row < o.lastRow := by
  unfold InBand PaintObj.firstRow PaintObj.lastRow
  by_cases hband : o.bandHeight = 0
  · rw [if_pos hband, if_pos hband]
    exact iff_of_true (.inl hband) ⟨Nat.zero_le _, hrow⟩
  · rw [if_neg hband, if_neg hband, or_iff_right hband, lt_min_iff, and_iff_left hrow]

lemma inBand_of_keeps {row : ℕ} (h : o.Keeps row) : InBand o row := by
  rcases h with hband | ⟨hle, hlt⟩
  · exact .inl hband
  · rw [UInt32.toNat_add] at hlt
    exact .inr ⟨hle, lt_of_lt_of_le hlt (Nat.mod_le _ _)⟩

lemma keeps_iff_of_endFits (hend : o.EndFits) {row : ℕ} : o.Keeps row ↔ InBand o row := by
  refine ⟨inBand_of_keeps, fun h => ?_⟩
  rcases h with hband | ⟨hle, hlt⟩
  · exact .inl hband
  · rcases hend with hband | hend
    · exact .inl hband
    · refine .inr ⟨hle, ?_⟩
      rw [UInt32.toNat_add, Nat.mod_eq_of_lt hend]
      exact hlt

/-- A band that keeps its first row has its end. -/
lemma endFits_of_keeps (h : o.Keeps o.firstRow) : o.EndFits := by
  unfold PaintObj.firstRow at h
  rcases h with hband | ⟨hle, hlt⟩
  · exact .inl hband
  · by_contra hend
    have hband : o.bandHeight ≠ 0 := fun hband => hend (.inl hband)
    rw [if_neg hband, UInt32.toNat_add] at hlt
    have hy := o.bandYStart.toNat_lt
    have hh := o.bandHeight.toNat_lt
    have hge : 2 ^ 32 ≤ o.bandYStart.toNat + o.bandHeight.toNat := by
      by_contra hlt'
      exact hend (.inr (by omega))
    rw [Nat.mod_eq_sub_mod hge, Nat.mod_eq_of_lt (by omega)] at hlt
    omega

/-- A pixel of the band is that of a visible point. -/
lemma exists_visible {c r : ℕ} (hc : c < o.width.toNat) (hfirst : o.firstRow ≤ r)
    (hlast : r < o.lastRow) :
    ∃ x y : UInt32, Visible o x y ∧ panelPoint o x.toNat y.toNat = (c, r) := by
  have hr : r < o.height.toNat := by
    unfold PaintObj.lastRow at hlast
    split at hlast
    · exact hlast
    · exact (lt_min_iff.mp hlast).2
  obtain ⟨x, y, harea, hpoint⟩ := exists_panelPoint hc hr
  refine ⟨x, y, ⟨harea, ?_⟩, hpoint⟩
  rw [hpoint]
  exact (inBand_iff hr).mpr ⟨hfirst, hlast⟩

/-- **The place of a visible point.** -/
lemma pointTarget_of_visible (hp : o.Prepared) (hend : o.EndFits) {x y : UInt32}
    (h : Visible o x y) :
    pointTarget cfg o x y
      = some (UInt32.ofNat (rowByte (o.width.toNat / 8) (panelPoint o x.toNat y.toNat).1
          ((panelPoint o x.toNat y.toNat).2 - o.firstRow)), cfg.mask (o.toPanel x y).1) := by
  rw [pointTarget_of_inArea hp h.1, if_pos ((keeps_iff_of_endFits hend).mpr h.2)]

variable (cfg) in
/-- Two visible points have the same place if their bytes have the same number of 32 bits, and their
columns the same bit. -/
lemma pointTarget_eq (hp : o.Prepared) (hend : o.EndFits) {x y x' y' : UInt32} (h : Visible o x y)
    (h' : Visible o x' y') {c r c' r' : ℕ} (hpoint : panelPoint o x.toNat y.toNat = (c, r))
    (hpoint' : panelPoint o x'.toNat y'.toNat = (c', r'))
    (hbyte : rowByte (o.width.toNat / 8) c (r - o.firstRow)
      = rowByte (o.width.toNat / 8) c' (r' - o.firstRow)) (hbit : c % 8 = c' % 8) :
    pointTarget cfg o x y = pointTarget cfg o x' y' := by
  have hcol := (toPanel_toNat h.1).1
  have hcol' := (toPanel_toNat h'.1).1
  rw [hpoint] at hcol
  rw [hpoint'] at hcol'
  have hmask : cfg.mask (o.toPanel x y).1 = cfg.mask (o.toPanel x' y').1 := by
    have hmod : (o.toPanel x y).1 % 8 = (o.toPanel x' y').1 % 8 := by
      refine UInt32.toNat_inj.mp ?_
      rw [UInt32.toNat_mod, UInt32.toNat_mod, hcol, hcol']
      exact hbit
    rw [PaintConfig.mask, PaintConfig.mask, hmod]
  rw [pointTarget_of_visible hp hend h, pointTarget_of_visible hp hend h', hpoint, hpoint', hmask,
    hbyte]

/-- Points that are not to be drawn are not drawn. -/
lemma pointTarget_of_not_visible (hp : o.Prepared) {x y : UInt32} (h : ¬ Visible o x y) :
    pointTarget cfg o x y = none := by
  by_cases harea : InArea o x.toNat y.toNat
  · rw [pointTarget_of_inArea hp harea, if_neg fun hkeeps => h ⟨harea, inBand_of_keeps hkeeps⟩]
  · exact pointTarget_of_not_inArea hp harea

/-- A panel with a pixel in the band shows its first row. -/
lemma endFits_of_addresses (hp : o.Prepared) (h : Addresses cfg o) (hwidth : 0 < o.width.toNat)
    (hrows : 0 < o.visibleRows) : o.EndFits := by
  have hlast : o.firstRow < o.lastRow := by
    unfold PaintObj.visibleRows at hrows
    omega
  obtain ⟨x, y, hvisible, hpoint⟩ := exists_visible hwidth (Nat.le_refl _) hlast
  obtain ⟨t, ht, -⟩ := h.inside x y hvisible
  rw [pointTarget_of_inArea hp hvisible.1, hpoint] at ht
  refine endFits_of_keeps ?_
  by_contra hnot
  rw [if_neg hnot] at ht
  cases ht

/-- What the buffer has to hold. -/
def PaintObj.RowsFit (o : PaintObj) : Prop :=
  (o.width.toNat % 8 = 0 ∧ o.visibleRows * (o.width.toNat / 8) ≤ o.bufferSize.toNat)
    ∨ (o.visibleRows = 1 ∧ o.width.toNat / 8 < o.bufferSize.toNat)

/-- **The rows have to fit**: the pixel at the end of the buffer has no place in it, and the first pixel
of a second row has that of a pixel before it. -/
lemma rowsFit_of_addresses (hp : o.Prepared) (h : Addresses cfg o) (hwidth : 0 < o.width.toNat)
    (hrows : 0 < o.visibleRows) : o.RowsFit := by
  have hend := endFits_of_addresses hp h hwidth hrows
  have hsize := o.bufferSize.toNat_lt
  have hplace : ∀ c r, c < o.width.toNat → r < o.visibleRows →
      rowByte (o.width.toNat / 8) c r < 2 ^ 32 →
      rowByte (o.width.toNat / 8) c r < o.bufferSize.toNat := by
    intro c r hc hr hlt
    unfold PaintObj.visibleRows at hr
    obtain ⟨x, y, hvisible, hpoint⟩ :=
      exists_visible hc (Nat.le_add_right o.firstRow r) (by omega)
    obtain ⟨t, ht, hbound⟩ := h.inside x y hvisible
    rw [pointTarget_of_visible hp hend hvisible, hpoint, Nat.add_sub_cancel_left] at ht
    obtain rfl := Option.some.inj ht
    rw [UInt32.lt_iff_toNat_lt, UInt32.toNat_ofNat', Nat.mod_eq_of_lt hlt] at hbound
    exact hbound
  by_cases hbytes : o.width.toNat % 8 = 0
  · refine .inl ⟨hbytes, ?_⟩
    by_contra hnot
    have hstride : 0 < o.width.toNat / 8 := by omega
    -- the pixel whose byte is the first one behind the buffer
    have hlt := hplace (o.bufferSize.toNat % (o.width.toNat / 8) * 8)
      (o.bufferSize.toNat / (o.width.toNat / 8))
    have hrem := Nat.mod_lt o.bufferSize.toNat hstride
    have hbyte : rowByte (o.width.toNat / 8) (o.bufferSize.toNat % (o.width.toNat / 8) * 8)
        (o.bufferSize.toNat / (o.width.toNat / 8)) = o.bufferSize.toNat := by
      rw [rowByte, Nat.mul_div_cancel _ (by decide), Nat.div_add_mod']
    rw [hbyte] at hlt
    refine Nat.lt_irrefl _ (hlt (by omega) ?_ hsize)
    rw [Nat.div_lt_iff_lt_mul hstride]
    omega
  · have hone : o.visibleRows = 1 := by
      by_contra hnot
      have hlast : o.firstRow + 1 < o.lastRow := by
        unfold PaintObj.visibleRows at hrows hnot
        omega
      have hcol : 8 * (o.width.toNat / 8) < o.width.toNat := by omega
      obtain ⟨x, y, hvisible, hpoint⟩ := exists_visible hcol (Nat.le_refl o.firstRow) (by omega)
      obtain ⟨x', y', hvisible', hpoint'⟩ :=
        exists_visible hwidth (Nat.le_add_right o.firstRow 1) hlast
      have hsame := pointTarget_eq cfg hp hend hvisible hvisible' hpoint hpoint' (by
        rw [rowByte, rowByte, Nat.mul_div_cancel_left _ (by decide), Nat.sub_self,
          Nat.add_sub_cancel_left]
        omega) (by omega)
      obtain ⟨rfl, rfl⟩ := h.distinct x y x' y' hvisible hvisible' hsame
      rw [hpoint] at hpoint'
      have hrow := congrArg Prod.snd hpoint'
      dsimp only at hrow
      omega
    have hlt := hplace (8 * (o.width.toNat / 8)) 0 (by omega) (by omega)
    have hbyte : rowByte (o.width.toNat / 8) (8 * (o.width.toNat / 8)) 0 = o.width.toNat / 8 := by
      rw [rowByte, Nat.mul_div_cancel_left _ (by decide)]
      omega
    rw [hbyte] at hlt
    have hbound := o.width.toNat_lt
    exact .inr ⟨hone, hlt (by omega)⟩

/-- Where nothing is to be seen nothing is drawn. -/
lemma addresses_of_no_visible (hp : o.Prepared) (h : ∀ x y, ¬ Visible o x y) : Addresses cfg o :=
  ⟨fun _ _ hvisible => (h _ _ hvisible).elim, fun _ _ _ _ hvisible => (h _ _ hvisible).elim,
    fun _ _ hnot => pointTarget_of_not_visible hp hnot⟩

/-- **Enough room** gives each visible point a place of its own. -/
lemma addresses_of_rowsFit (hp : o.Prepared) (hend : o.EndFits) (hfit : o.RowsFit) :
    Addresses cfg o := by
  have hsize := o.bufferSize.toNat_lt
  -- the byte of a visible point, below the end of the buffer
  have hbyte : ∀ {x y : UInt32}, Visible o x y →
      (panelPoint o x.toNat y.toNat).1 < o.width.toNat
        ∧ o.firstRow ≤ (panelPoint o x.toNat y.toNat).2
        ∧ (panelPoint o x.toNat y.toNat).2 - o.firstRow < o.visibleRows
        ∧ rowByte (o.width.toNat / 8) (panelPoint o x.toNat y.toNat).1
          ((panelPoint o x.toNat y.toNat).2 - o.firstRow) < o.bufferSize.toNat := by
    intro x y hvisible
    obtain ⟨hcol, hrow⟩ := panelPoint_lt hvisible.1
    obtain ⟨hfirst, hlast⟩ := (inBand_iff hrow).mp hvisible.2
    have hrows : (panelPoint o x.toNat y.toNat).2 - o.firstRow < o.visibleRows := by
      unfold PaintObj.visibleRows
      omega
    refine ⟨hcol, hfirst, hrows, ?_⟩
    rcases hfit with ⟨hbytes, hroom⟩ | ⟨hone, hroom⟩
    · exact lt_of_lt_of_le (rowByte_lt (by omega) hrows) hroom
    · have hzero : (panelPoint o x.toNat y.toNat).2 - o.firstRow = 0 := by omega
      rw [hzero, rowByte, Nat.zero_mul]
      omega
  constructor
  · intro x y hvisible
    obtain ⟨-, -, -, hlt⟩ := hbyte hvisible
    refine ⟨_, pointTarget_of_visible hp hend hvisible, ?_⟩
    rw [UInt32.lt_iff_toNat_lt, UInt32.toNat_ofNat', Nat.mod_eq_of_lt (by omega)]
    exact hlt
  · intro x y x' y' hvisible hvisible' hsame
    obtain ⟨hcol, hfirst, hrows, hlt⟩ := hbyte hvisible
    obtain ⟨hcol', hfirst', hrows', hlt'⟩ := hbyte hvisible'
    rw [pointTarget_of_visible hp hend hvisible, pointTarget_of_visible hp hend hvisible',
      Option.some_inj, Prod.mk.injEq] at hsame
    obtain ⟨hindex, hmask⟩ := hsame
    have hnat := (ofNat_inj_of_lt (by omega) (by omega)).mp hindex
    have hbit := mask_inj hmask
    rw [(toPanel_toNat hvisible.1).1, (toPanel_toNat hvisible'.1).1] at hbit
    have hpoint : panelPoint o x.toNat y.toNat = panelPoint o x'.toNat y'.toNat →
        x = x' ∧ y = y' := by
      intro heq
      obtain ⟨hx, hy⟩ := panelPoint_injective hvisible.1 hvisible'.1 heq
      exact ⟨UInt32.toNat_inj.mp hx, UInt32.toNat_inj.mp hy⟩
    refine hpoint (Prod.ext ?_ ?_)
    · rcases hfit with ⟨hbytes, -⟩ | ⟨hone, -⟩
      · have hplace := rowByte_inj (by omega) (by omega) hnat
        omega
      · have hzero : (panelPoint o x.toNat y.toNat).2 - o.firstRow = 0 := by omega
        have hzero' : (panelPoint o x'.toNat y'.toNat).2 - o.firstRow = 0 := by omega
        rw [hzero, hzero', rowByte, rowByte] at hnat
        omega
    · rcases hfit with ⟨hbytes, -⟩ | ⟨hone, -⟩
      · have hplace := rowByte_inj (by omega) (by omega) hnat
        omega
      · omega
  · exact fun x y h => pointTarget_of_not_visible hp h

end Addresses

/-- **When every visible pixel has a place of its own.**  There is none; or the end of the band is a
number of 32 bits, and the rows in the band go into the buffer: whole bytes each, or a single row with one
byte to spare. -/
theorem addresses_iff (cfg : PaintConfig) (o : PaintObj) (direction : PaintDirection)
    (yStart : UInt32) :
    let p := o.prepared direction yStart
    let size := ((if o.bandHeight ≠ 0 then o.bandHeight else o.height).toNat
      * (o.width.toNat / 8)) % 2 ^ 32
    Addresses cfg p ↔ o.width = 0 ∨ p.visibleRows = 0 ∨ p.EndFits
      ∧ ((o.width.toNat % 8 = 0 ∧ p.visibleRows * (o.width.toNat / 8) ≤ size)
        ∨ (p.visibleRows = 1 ∧ o.width.toNat / 8 < size)) := by
  intro p size
  have hp : p.Prepared := o.prepared_prepared direction yStart
  have hwidth : p.width = o.width := prepared_width o direction yStart
  have hsize : p.bufferSize.toNat = size := by
    rw [prepared_bufferSize, UInt32.toNat_mul, UInt32.toNat_div]
    rfl
  have hfit : p.RowsFit ↔ (o.width.toNat % 8 = 0 ∧ p.visibleRows * (o.width.toNat / 8) ≤ size)
      ∨ (p.visibleRows = 1 ∧ o.width.toNat / 8 < size) := by
    rw [PaintObj.RowsFit, hsize, hwidth]
  rw [← hfit]
  constructor
  · intro h
    by_cases hzero : o.width = 0
    · exact .inl hzero
    · by_cases hrows : p.visibleRows = 0
      · exact .inr (.inl hrows)
      · have hpos : 0 < p.width.toNat := by
          rw [hwidth]
          exact Nat.pos_of_ne_zero fun h => hzero (UInt32.toNat_inj.mp h)
        have hrows' := Nat.pos_of_ne_zero hrows
        exact .inr (.inr ⟨endFits_of_addresses hp h hpos hrows',
          rowsFit_of_addresses hp h hpos hrows'⟩)
  · rintro (hzero | hrows | ⟨hend, hroom⟩)
    · refine addresses_of_no_visible hp fun x y hvisible => ?_
      have hcol := (panelPoint_lt hvisible.1).1
      rw [hwidth, hzero] at hcol
      exact Nat.not_lt_zero _ hcol
    · refine addresses_of_no_visible hp fun x y hvisible => ?_
      have hrow := (panelPoint_lt hvisible.1).2
      obtain ⟨hfirst, hlast⟩ := (inBand_iff hrow).mp hvisible.2
      unfold PaintObj.visibleRows at hrows
      omega
    · exact addresses_of_rowsFit hp hend hroom

/-- A panel that is 12 pixels wide and has two rows. -/
def panel12 : PaintObj := ⟨.mode1, .d0, 12, 2, 0, 0, 0, 0, 0⟩

/-- Its pixels (8, 0) and (0, 1) have the same place. -/
theorem not_addresses : ¬ Addresses ⟨false, false, false, true⟩ (panel12.prepared .d0 0) := by
  intro h
  have hvisible : ∀ x y : UInt32, x.toNat < 12 → y.toNat < 2 →
      Visible (panel12.prepared .d0 0) x y := fun x y hx hy => ⟨⟨hx, hy⟩, .inl rfl⟩
  have hsame := h.distinct 8 0 0 1 (hvisible 8 0 (by decide) (by decide))
    (hvisible 0 1 (by decide) (by decide)) (by decide)
  exact absurd hsame.1 (by decide)

end NrfEsl
