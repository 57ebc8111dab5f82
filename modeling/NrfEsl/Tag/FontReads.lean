import NrfEsl.Lib.Traced
import NrfEsl.Tag.Paint

/-!
# What the text functions read

`paint_DrawFont` walks through the table of a font with a pointer, and does not know where the table
ends.  Its functions are given here once more, together with the offsets they read (`Traced`), for the
fonts of the library; `paint_DrawString` with its counter and `strlen`.

A text is what stands in front of the terminating zero (`CString`).
-/

namespace NrfEsl

/-- The fonts of the library. -/
inductive PaintFont
  | font8 | font12 | font16 | font20 | font24
  deriving DecidableEq, Repr

namespace PaintFont

def width : PaintFont → UInt16
  | .font8 => 7
  | .font12 => 11
  | .font16 => 14
  | .font20 => 18
  | .font24 => 22

def height : PaintFont → UInt16
  | .font8 => 8
  | .font12 => 12
  | .font16 => 16
  | .font20 => 20
  | .font24 => 24

/-- The number of bytes in `Font8_Table` to `Font24_Table`: 95 characters from the blank on.  The last
one of `Font12_Table`, the tilde, has a row less. -/
def tableSize : PaintFont → ℕ
  | .font8 => 95 * 8
  | .font12 => 94 * 24 + 22
  | .font16 => 95 * 32
  | .font20 => 95 * 60
  | .font24 => 95 * 72

/-- The `sFONT`, for a table and what lies behind it. -/
def font (f : PaintFont) (table : ℕ → UInt8) : Font := ⟨table, f.width, f.height⟩

end PaintFont

/-- A text of C. -/
structure CString where
  bytes : List UInt8
  noZero : 0 ∉ bytes

/-- `s[i]`, up to the terminating zero. -/
def CString.char (s : CString) (i : ℕ) : UInt8 := s.bytes.getD i 0

/-- `strlen(s)`, in an `uint32_t`. -/
def CString.strlen (s : CString) : UInt32 := UInt32.ofNat s.bytes.length

variable (cfg : PaintConfig) (o : PaintObj) (color : PaintColor) (f : PaintFont) (table : ℕ → UInt8)

/-- `*ptr` -/
def readTable (ptr : ℕ) : Traced UInt8 := do
  Traced.access (.index f.tableSize ptr)
  pure (table ptr)

/-- `fontRow`, and what it reads. -/
def fontRowReads (x y : Int32) (j : ℕ) : ℕ → Frame × ℕ → Traced (Frame × ℕ)
  | 0, s => pure s
  | n + 1, s => do
      let s ← fontRowReads x y j n s
      let byte ← readTable f table s.2
      let m :=
        if byte &&& (0x80 >>> UInt8.ofNat (n % 8)) ≠ 0 then
          paintDrawPoint cfg o color (x + Int32.ofNat n).toUInt32 (y + Int32.ofNat j).toUInt32 s.1
        else s.1
      pure (m, if n % 8 = 7 then s.2 + 1 else s.2)

/-- `fontRows`, and what it reads. -/
def fontRowsReads (x y : Int32) : ℕ → Frame × ℕ → Traced (Frame × ℕ)
  | 0, s => pure s
  | n + 1, s => do
      let s ← fontRowsReads x y n s
      let s ← fontRowReads cfg o color f table x y n f.width.toNat s
      pure (s.1, if f.width.toNat % 8 ≠ 0 then s.2 + 1 else s.2)

/-- `paint_DrawFont`, and what it reads. -/
def drawFontReads (c : UInt8) (x y : Int32) (m : Frame) : Traced Frame :=
  if (x + Int32.ofNat f.width.toNat).toUInt32 > o.xEnd
      ∨ (y + Int32.ofNat f.height.toNat).toUInt32 > o.yEnd then pure m
  else do
    let charOffset := (c - 0x20).toNat * f.height.toNat * ((f.width.toNat + 7) / 8)
    let s ← fontRowsReads cfg o color f table x y f.height.toNat (m, charOffset)
    pure s.1

/-- The loop of `paint_DrawString` from a counter on, and what it reads; `none` when the fuel is used
up. -/
def drawStringLoop (s : CString) (y : Int32) : ℕ → UInt32 → Int32 → Frame → Traced (Option Frame)
  | 0, _, _, _ => pure none
  | fuel + 1, sIndex, x, m =>
      if (x + Int32.ofNat f.width.toNat).toUInt32 ≤ o.xEnd then do
        let m ← drawFontReads cfg o color f table (s.char sIndex.toNat) x y m
        if sIndex + 1 < s.strlen then
          drawStringLoop s y fuel (sIndex + 1) (x + Int32.ofNat f.width.toNat) m
        else pure (some m)
      else pure (some m)

/-- `paint_DrawString`, and what it reads. -/
def drawStringReads (s : CString) (x y : Int32) (m : Frame) : Traced (Option Frame) :=
  drawStringLoop cfg o color f table s y paintFuel 0 x m

/-! ## The same drawing -/

variable {cfg o color f table}

lemma val_fontRowReads (x y : Int32) (j n : ℕ) (s : Frame × ℕ) :
    (fontRowReads cfg o color f table x y j n s).val = fontRow cfg o color (f.font table) x y j n s := by
  induction n with
  | zero => rfl
  | succ n ih =>
      rw [fontRow, ← ih]
      rfl

lemma val_fontRowsReads (x y : Int32) (n : ℕ) (s : Frame × ℕ) :
    (fontRowsReads cfg o color f table x y n s).val = fontRows cfg o color (f.font table) x y n s := by
  induction n with
  | zero => rfl
  | succ n ih =>
      rw [fontRows, ← ih, ← val_fontRowReads]
      rfl

lemma val_drawFontReads (c : UInt8) (x y : Int32) (m : Frame) :
    (drawFontReads cfg o color f table c x y m).val
      = paintDrawFont cfg o color c (f.font table) x y m := by
  rw [drawFontReads, paintDrawFont, Traced.val_ite]
  dsimp only
  rw [← val_fontRowsReads]
  rfl

/-- The characters that `s_index` runs through; there is always a first turn. -/
def CString.turns (s : CString) : ℕ := max 1 s.strlen.toNat

lemma CString.strlen_le (s : CString) : s.strlen.toNat ≤ s.bytes.length := by
  rw [CString.strlen, UInt32.toNat_ofNat']
  exact Nat.mod_le _ _

/-- One turn further the counter has not come round. -/
lemma toNat_next {s : CString} {sIndex : UInt32} (h : sIndex.toNat < s.turns) :
    (sIndex + 1).toNat = sIndex.toNat + 1 := by
  have hlen := s.strlen.toNat_lt
  rw [CString.turns] at h
  rw [UInt32.toNat_add]
  exact Nat.mod_eq_of_lt (by show sIndex.toNat + 1 < 2 ^ 32; omega)

/-- Whether there is a next turn. -/
lemma next_lt_strlen_iff {s : CString} {sIndex : UInt32} (h : sIndex.toNat < s.turns) :
    sIndex + 1 < s.strlen ↔ sIndex.toNat + 1 < s.turns := by
  rw [UInt32.lt_iff_toNat_lt, toNat_next h, CString.turns]
  omega

/-- The texts that are drawn from a turn on. -/
lemma drop_turns {s : CString} {i : ℕ} (h : i < s.turns) :
    (s.bytes = [] ∧ (s.bytes.take s.turns).drop i = [] ∧ s.turns = 1)
      ∨ (s.bytes.take s.turns).drop i = s.char i :: (s.bytes.take s.turns).drop (i + 1)
        ∧ ((s.bytes.take s.turns).drop (i + 1) = [] ↔ s.turns ≤ i + 1) := by
  have hlen := s.strlen_le
  rcases List.eq_nil_or_concat s.bytes with hnil | ⟨bs, b, hbytes⟩
  · refine .inl ⟨hnil, by rw [hnil, List.take_nil, List.drop_nil], ?_⟩
    rw [hnil, List.length_nil] at hlen
    rw [CString.turns]
    omega
  · have hpos : 0 < s.bytes.length := by
      rw [hbytes, List.concat_eq_append, List.length_append]
      exact Nat.succ_pos _
    have hle : s.turns ≤ s.bytes.length := by
      rw [CString.turns]
      omega
    have htake : (s.bytes.take s.turns).length = s.turns := by
      rw [List.length_take]
      omega
    refine .inr ⟨?_, ?_⟩
    · rw [List.drop_eq_getElem_cons (by rw [htake]; exact h), List.getElem_take, CString.char,
        List.getD_eq_getElem?_getD, List.getElem?_eq_getElem (by omega), Option.getD_some]
    · rw [List.drop_eq_nil_iff, htake]

/-- **The loop ends**, and has drawn what `paintDrawString` draws. -/
lemma val_drawStringLoop (s : CString) (y : Int32) {fuel : ℕ} {sIndex : UInt32}
    (hturn : sIndex.toNat < s.turns) (hfuel : s.turns ≤ sIndex.toNat + fuel) (x : Int32) (m : Frame) :
    (drawStringLoop cfg o color f table s y fuel sIndex x m).val
      = some (paintDrawString cfg o color (f.font table)
          ((s.bytes.take s.turns).drop sIndex.toNat) x y m) := by
  induction fuel generalizing sIndex x m with
  | zero => omega
  | succ fuel ih =>
      have hnext := next_lt_strlen_iff hturn
      have hstep : (drawStringLoop cfg o color f table s y (fuel + 1) sIndex x m).val
          = if (x + Int32.ofNat f.width.toNat).toUInt32 ≤ o.xEnd then
              if sIndex + 1 < s.strlen then
                (drawStringLoop cfg o color f table s y fuel (sIndex + 1)
                  (x + Int32.ofNat f.width.toNat)
                  (paintDrawFont cfg o color (s.char sIndex.toNat) (f.font table) x y m)).val
              else some (paintDrawFont cfg o color (s.char sIndex.toNat) (f.font table) x y m)
            else some m := by
        rw [drawStringLoop, Traced.val_ite, Traced.val_bind, Traced.val_ite, val_drawFontReads]
        rfl
      rw [hstep]
      by_cases hfits : (x + Int32.ofNat f.width.toNat).toUInt32 ≤ o.xEnd
      · rw [if_pos hfits]
        have hfits' : (x + Int32.ofNat (f.font table).width.toNat).toUInt32 ≤ o.xEnd := hfits
        rcases drop_turns hturn with ⟨hnil, htext, hone⟩ | ⟨htext, hlast⟩
        · have hchar : s.char sIndex.toNat = 0 := by rw [CString.char, hnil, List.getD_nil]
          rw [if_neg (by rw [hnext]; omega), htext, paintDrawString, if_pos hfits', hchar]
        · rw [htext, paintDrawString, if_pos hfits']
          by_cases hmore : sIndex.toNat + 1 < s.turns
          · rw [if_pos (hnext.mpr hmore), if_neg (by rw [hlast]; omega),
              ih (by rw [toNat_next hturn]; exact hmore) (by rw [toNat_next hturn]; omega),
              toNat_next hturn]
            rfl
          · rw [if_neg (by rw [hnext]; exact hmore), if_pos (hlast.mpr (by omega))]
      · have hfits' : ¬ (x + Int32.ofNat (f.font table).width.toNat).toUInt32 ≤ o.xEnd := hfits
        rw [if_neg hfits]
        rcases drop_turns hturn with ⟨-, htext, -⟩ | ⟨htext, -⟩ <;>
          rw [htext, paintDrawString, if_neg hfits']

/-- The loop has enough fuel for every text. -/
lemma turns_bounds (s : CString) :
    (0 : UInt32).toNat < s.turns ∧ s.turns ≤ (0 : UInt32).toNat + paintFuel := by
  have hlen := s.strlen.toNat_lt
  have hturns : 0 < s.turns ∧ s.turns ≤ 2 ^ 32 := by
    rw [CString.turns]
    omega
  have hfuel : 2 ^ 32 ≤ paintFuel := Nat.le_succ _
  exact ⟨hturns.1, by omega⟩

/-- **`paint_DrawString` ends** on every text, and draws what `paintDrawString` draws.  Its counter has
32 bits, so that of a longer text only a part is drawn. -/
theorem val_drawStringReads (s : CString) (x y : Int32) (m : Frame) :
    (drawStringReads cfg o color f table s x y m).val
      = some (paintDrawString cfg o color (f.font table) (s.bytes.take s.turns) x y m) := by
  rw [drawStringReads, val_drawStringLoop s y (turns_bounds s).1 (turns_bounds s).2]
  rfl

end NrfEsl
