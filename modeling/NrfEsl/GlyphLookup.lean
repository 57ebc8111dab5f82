import NrfEsl.Common
import NrfEsl.Tag.FontReads

/-!
# The look-up of characters in a font

`paint_DrawFont` takes its character minus a blank as the index into the table of the font.  Neither it
nor `paint_DrawString` looks at the character before.

* The reads of a character are the bytes of its place in the table (`mem_drawFontReads`), and those of a
  text the reads of the characters that are drawn (`mem_drawStringReads`).
* That place is in the table for the printable characters of ASCII, and for no others; in Font12 it is
  not for the tilde, which has a row too few (`place_le_iff`).

`readsOwn_iff` — so **a text is read from the table** exactly when the characters that are drawn are
of that kind.  Of the empty text the terminating zero is drawn, as the loop has a first turn always.
-/

namespace NrfEsl

open Bitmap

/-! ## What is to hold -/

/-- The bytes of a character. -/
def PaintFont.glyphSize (f : PaintFont) : ℕ := f.height.toNat * ((f.width.toNat + 7) / 8)

/-- A byte of the table that belongs to a character. -/
def PaintFont.Holds (f : PaintFont) (c : UInt8) (i : ℕ) : Prop :=
  i < f.tableSize ∧ 0x20 ≤ c.toNat
    ∧ (c.toNat - 0x20) * f.glyphSize ≤ i ∧ i < (c.toNat - 0x20 + 1) * f.glyphSize

/-- The drawing ends, and reads bytes of the table that belong to characters of the text. -/
def ReadsOwn (cfg : PaintConfig) (o : PaintObj) (color : PaintColor) (f : PaintFont)
    (table : ℕ → UInt8) (s : CString) (x y : Int32) (m : Frame) : Prop :=
  (drawStringReads cfg o color f table s x y m).val.isSome
    ∧ ∀ a ∈ (drawStringReads cfg o color f table s x y m).accesses,
        ∃ c ∈ s.bytes, ∃ i, a = .index f.tableSize i ∧ f.Holds c i

/-- A character of the fonts. -/
def PaintFont.HasGlyph (f : PaintFont) (c : UInt8) : Prop :=
  0x20 ≤ c ∧ c ≤ 0x7e ∧ ¬ (f = .font12 ∧ c = 0x7e)

instance (f : PaintFont) (c : UInt8) : Decidable (f.HasGlyph c) :=
  inferInstanceAs (Decidable (_ ∧ _ ∧ ¬ _))

/-- The right edge of a character of a line is in the drawing area. -/
def FitsAt (o : PaintObj) (f : PaintFont) (x : Int32) (k : ℕ) : Prop :=
  (x + Int32.ofNat (k * f.width.toNat) + Int32.ofNat f.width.toNat).toUInt32 ≤ o.xEnd

instance (o : PaintObj) (f : PaintFont) (x : Int32) (k : ℕ) : Decidable (FitsAt o f x k) :=
  inferInstanceAs (Decidable (_ ≤ _))

/-- The characters of a text that are drawn: as many as fit in the width, if a line fits in the
height. -/
def DrawnAt (o : PaintObj) (f : PaintFont) (s : CString) (x y : Int32) (k : ℕ) : Prop :=
  k < s.turns ∧ (∀ j ≤ k, FitsAt o f x j) ∧ (y + Int32.ofNat f.height.toNat).toUInt32 ≤ o.yEnd

/-! ## The reads of a character -/

section Reads

variable {cfg : PaintConfig} {o : PaintObj} {color : PaintColor} {f : PaintFont} {table : ℕ → UInt8}

/-- The bytes that `paint_DrawFont` reads of a character. -/
def ReadsOf (f : PaintFont) (c : UInt8) (a : Access) : Prop :=
  ∃ b < f.glyphSize, a = .index f.tableSize ((c - 0x20).toNat * f.glyphSize + b)

variable (cfg o color f table) in
/-- A pointer that moves on behind every eighth column. -/
lemma snd_fontRowReads (x y : Int32) (j n : ℕ) (s : Frame × ℕ) :
    (fontRowReads cfg o color f table x y j n s).val.2 = s.2 + n / 8 := by
  induction n with
  | zero => rfl
  | succ n ih =>
      show (if n % 8 = 7 then (fontRowReads cfg o color f table x y j n s).val.2 + 1
        else (fontRowReads cfg o color f table x y j n s).val.2) = s.2 + (n + 1) / 8
      rw [ih]
      split <;> omega

lemma mem_fontRowReads (x y : Int32) (j n : ℕ) (s : Frame × ℕ) (a : Access) :
    a ∈ (fontRowReads cfg o color f table x y j n s).accesses
      ↔ ∃ i < n, a = .index f.tableSize (s.2 + i / 8) := by
  induction n with
  | zero =>
      rw [fontRowReads, Traced.accesses_pure]
      simp
  | succ n ih =>
      have hstep : (fontRowReads cfg o color f table x y j (n + 1) s).accesses
          = (fontRowReads cfg o color f table x y j n s).accesses
            ++ [.index f.tableSize (s.2 + n / 8)] := by
        rw [← snd_fontRowReads cfg o color f table x y j n s]
        rfl
      rw [hstep, List.mem_append, ih, List.mem_singleton]
      constructor
      · rintro (⟨i, hi, rfl⟩ | rfl)
        · exact ⟨i, by omega, rfl⟩
        · exact ⟨n, n.lt_succ_self, rfl⟩
      · rintro ⟨i, hi, rfl⟩
        rcases Nat.lt_succ_iff_lt_or_eq.mp hi with hlt | rfl
        · exact .inl ⟨i, hlt, rfl⟩
        · exact .inr rfl

variable (cfg o color f table) in
/-- A row takes whole bytes. -/
lemma snd_fontRowsReads (x y : Int32) (n : ℕ) (s : Frame × ℕ) :
    (fontRowsReads cfg o color f table x y n s).val.2 = s.2 + n * ((f.width.toNat + 7) / 8) := by
  induction n with
  | zero => rw [Nat.zero_mul]; rfl
  | succ n ih =>
      have hrow := snd_fontRowReads cfg o color f table x y n f.width.toNat
        (fontRowsReads cfg o color f table x y n s).val
      rw [ih] at hrow
      show (if f.width.toNat % 8 ≠ 0 then (fontRowReads cfg o color f table x y n f.width.toNat
          (fontRowsReads cfg o color f table x y n s).val).val.2 + 1
        else (fontRowReads cfg o color f table x y n f.width.toNat
          (fontRowsReads cfg o color f table x y n s).val).val.2) = _
      rw [hrow, Nat.succ_mul]
      split <;> omega

lemma mem_fontRowsReads (x y : Int32) (n : ℕ) (s : Frame × ℕ) (a : Access) :
    a ∈ (fontRowsReads cfg o color f table x y n s).accesses ↔ ∃ j < n, ∃ i < f.width.toNat,
      a = .index f.tableSize (s.2 + rowByte ((f.width.toNat + 7) / 8) i j) := by
  induction n with
  | zero =>
      rw [fontRowsReads, Traced.accesses_pure]
      simp
  | succ n ih =>
      have hstep : (fontRowsReads cfg o color f table x y (n + 1) s).accesses
          = (fontRowsReads cfg o color f table x y n s).accesses
            ++ (fontRowReads cfg o color f table x y n f.width.toNat
              (fontRowsReads cfg o color f table x y n s).val).accesses := by
        rw [fontRowsReads, Traced.accesses_bind, Traced.accesses_bind, Traced.accesses_pure,
          List.append_nil]
      rw [hstep, List.mem_append, ih, mem_fontRowReads, snd_fontRowsReads]
      simp only [rowByte, ← Nat.add_assoc]
      constructor
      · rintro (⟨j, hj, i, hi, rfl⟩ | ⟨i, hi, rfl⟩)
        · exact ⟨j, by omega, i, hi, rfl⟩
        · exact ⟨n, n.lt_succ_self, i, hi, rfl⟩
      · rintro ⟨j, hj, i, hi, rfl⟩
        rcases Nat.lt_succ_iff_lt_or_eq.mp hj with hlt | rfl
        · exact .inl ⟨j, hlt, i, hi, rfl⟩
        · exact .inr ⟨i, hi, rfl⟩

/-- **The reads of a character** that is not clipped are all bytes of its place. -/
lemma mem_drawFontReads (c : UInt8) (x y : Int32) (m : Frame) (a : Access) :
    a ∈ (drawFontReads cfg o color f table c x y m).accesses
      ↔ (x + Int32.ofNat f.width.toNat).toUInt32 ≤ o.xEnd
        ∧ (y + Int32.ofNat f.height.toNat).toUInt32 ≤ o.yEnd ∧ ReadsOf f c a := by
  rw [drawFontReads]
  split
  · rename_i hclip
    rw [Traced.accesses_pure]
    refine iff_of_false List.not_mem_nil ?_
    rintro ⟨hx, hy, -⟩
    exact hclip.elim (UInt32.not_lt.mpr hx) (UInt32.not_lt.mpr hy)
  · rename_i hclip
    rw [not_or] at hclip
    have hx := UInt32.not_lt.mp hclip.1
    have hy := UInt32.not_lt.mp hclip.2
    dsimp only
    rw [Traced.accesses_bind, Traced.accesses_pure, List.append_nil, mem_fontRowsReads]
    have hplace : (c - 0x20).toNat * f.height.toNat * ((f.width.toNat + 7) / 8)
        = (c - 0x20).toNat * f.glyphSize := Nat.mul_assoc _ _ _
    rw [hplace]
    constructor
    · rintro ⟨j, hj, i, hi, rfl⟩
      exact ⟨hx, hy, _, rowByte_lt (by omega) hj, rfl⟩
    · rintro ⟨-, -, b, hb, rfl⟩
      obtain ⟨j, hj, i, hi, rfl⟩ := exists_rowByte hb
      exact ⟨j, hj, i, hi, rfl⟩

/-! ## The reads of a text -/

lemma advance_succ (x : Int32) (k : ℕ) :
    x + Int32.ofNat (k * f.width.toNat) + Int32.ofNat f.width.toNat
      = x + Int32.ofNat ((k + 1) * f.width.toNat) := by
  rw [Nat.succ_mul, Int32.ofNat_add, Int32.add_assoc]

/-- One turn of the loop reads its character, and goes on where there is another one. -/
lemma mem_drawStringLoop_succ {s : CString} (x y : Int32) (fuel : ℕ) {sIndex : UInt32}
    (hturn : sIndex.toNat < s.turns) (m : Frame) (a : Access) :
    a ∈ (drawStringLoop cfg o color f table s y (fuel + 1) sIndex
        (x + Int32.ofNat (sIndex.toNat * f.width.toNat)) m).accesses
      ↔ FitsAt o f x sIndex.toNat
        ∧ ((y + Int32.ofNat f.height.toNat).toUInt32 ≤ o.yEnd ∧ ReadsOf f (s.char sIndex.toNat) a
          ∨ (sIndex + 1).toNat < s.turns
            ∧ a ∈ (drawStringLoop cfg o color f table s y fuel (sIndex + 1)
                (x + Int32.ofNat ((sIndex + 1).toNat * f.width.toNat))
                (drawFontReads cfg o color f table (s.char sIndex.toNat)
                  (x + Int32.ofNat (sIndex.toNat * f.width.toNat)) y m).val).accesses) := by
  have hmore := next_lt_strlen_iff hturn
  rw [← toNat_next hturn] at hmore
  have hadvance : x + Int32.ofNat (sIndex.toNat * f.width.toNat) + Int32.ofNat f.width.toNat
      = x + Int32.ofNat ((sIndex + 1).toNat * f.width.toNat) := by
    rw [advance_succ, toNat_next hturn]
  rw [drawStringLoop, Traced.accesses_ite, Traced.accesses_bind, Traced.accesses_ite,
    Traced.accesses_pure, Traced.accesses_pure, hadvance, FitsAt, hadvance]
  split
  · rename_i hfits
    rw [List.mem_append, mem_drawFontReads, hadvance, and_iff_right hfits, and_iff_right hfits]
    split
    · rename_i hlt
      rw [and_iff_right (hmore.mp hlt)]
    · rename_i hge
      rw [or_iff_left List.not_mem_nil, or_iff_left fun h => hge (hmore.mpr h.1)]
  · rename_i hfits
    exact iff_of_false List.not_mem_nil fun h => hfits h.1

/-- The reads of a text from a turn on. -/
lemma mem_drawStringLoop (s : CString) (x y : Int32) {fuel : ℕ} {sIndex : UInt32}
    (hturn : sIndex.toNat < s.turns) (hfuel : s.turns ≤ sIndex.toNat + fuel) (m : Frame) (a : Access) :
    a ∈ (drawStringLoop cfg o color f table s y fuel sIndex
        (x + Int32.ofNat (sIndex.toNat * f.width.toNat)) m).accesses
      ↔ ∃ k < s.turns, sIndex.toNat ≤ k ∧ (∀ j ≤ k, sIndex.toNat ≤ j → FitsAt o f x j)
        ∧ (y + Int32.ofNat f.height.toNat).toUInt32 ≤ o.yEnd ∧ ReadsOf f (s.char k) a := by
  induction fuel generalizing sIndex m with
  | zero => omega
  | succ fuel ih =>
      have hnext := toNat_next hturn
      rw [mem_drawStringLoop_succ x y fuel hturn]
      constructor
      · rintro ⟨hfits, ⟨hy, hread⟩ | ⟨hmore, hrest⟩⟩
        · exact ⟨sIndex.toNat, hturn, Nat.le_refl _,
            fun j hj hij => Nat.le_antisymm hij hj ▸ hfits, hy, hread⟩
        · obtain ⟨k, hk, hik, hall, hy, hread⟩ := (ih hmore (by omega) _).mp hrest
          refine ⟨k, hk, by omega, fun j hj hij => ?_, hy, hread⟩
          rcases Nat.eq_or_lt_of_le hij with rfl | hlt
          · exact hfits
          · exact hall j hj (by omega)
      · rintro ⟨k, hk, hik, hall, hy, hread⟩
        refine ⟨hall _ hik (Nat.le_refl _), ?_⟩
        rcases Nat.eq_or_lt_of_le hik with rfl | hlt
        · exact .inl ⟨hy, hread⟩
        · have hmore : (sIndex + 1).toNat < s.turns := by omega
          refine .inr ⟨hmore, (ih hmore (by omega) _).mpr ?_⟩
          exact ⟨k, hk, by omega, fun j hj hij => hall j hj (by omega), hy, hread⟩

/-- **The reads of a text** are those of the characters that are drawn. -/
lemma mem_drawStringReads (s : CString) (x y : Int32) (m : Frame) (a : Access) :
    a ∈ (drawStringReads cfg o color f table s x y m).accesses
      ↔ ∃ k, DrawnAt o f s x y k ∧ ReadsOf f (s.char k) a := by
  have hstart : x + Int32.ofNat ((0 : UInt32).toNat * f.width.toNat) = x := by
    have hzero : (0 : UInt32).toNat * f.width.toNat = 0 := Nat.zero_mul _
    rw [hzero]
    exact Int32.add_zero x
  have hloop : a ∈ (drawStringLoop cfg o color f table s y paintFuel 0
      (x + Int32.ofNat ((0 : UInt32).toNat * f.width.toNat)) m).accesses ↔ _ :=
    mem_drawStringLoop s x y (turns_bounds s).1 (turns_bounds s).2 m a
  rw [hstart] at hloop
  rw [drawStringReads, hloop]
  constructor
  · rintro ⟨k, hk, -, hall, hy, hread⟩
    exact ⟨k, ⟨hk, fun j hj => hall j hj (Nat.zero_le j), hy⟩, hread⟩
  · rintro ⟨k, ⟨hk, hall, hy⟩, hread⟩
    exact ⟨k, hk, Nat.zero_le k, fun j hj _ => hall j hj, hy, hread⟩

end Reads

/-! ## The place of a character -/

/-- **The place of a character is in the table** for the characters of the fonts only. -/
lemma place_le_iff (f : PaintFont) (c : UInt8) :
    ((c - 0x20).toNat + 1) * f.glyphSize ≤ f.tableSize ↔ f.HasGlyph c := by
  cases f <;>
  · revert c
    exact forall_uint8 (by decide +kernel)

lemma toNat_sub_blank {f : PaintFont} {c : UInt8} (h : f.HasGlyph c) :
    0x20 ≤ c.toNat ∧ (c - 0x20).toNat = c.toNat - 0x20 := by
  have hle : (0x20 : UInt8) ≤ c := h.1
  exact ⟨hle, UInt8.toNat_sub_of_le c 0x20 hle⟩

lemma glyphSize_pos (f : PaintFont) : 0 < f.glyphSize := by
  cases f <;> decide

/-- A character of the text has its own bytes read. -/
lemma holds_of_readsOf {f : PaintFont} {c : UInt8} {a : Access} (hc : f.HasGlyph c)
    (h : ReadsOf f c a) : ∃ i, a = .index f.tableSize i ∧ f.Holds c i := by
  obtain ⟨b, hb, rfl⟩ := h
  obtain ⟨hblank, hsub⟩ := toNat_sub_blank hc
  have hend := (place_le_iff f c).mpr hc
  rw [hsub] at hend ⊢
  have hnext : (c.toNat - 0x20 + 1) * f.glyphSize = (c.toNat - 0x20) * f.glyphSize + f.glyphSize :=
    Nat.succ_mul _ _
  exact ⟨_, rfl, by omega, hblank, by omega, by omega⟩

/-- Another character has a byte read that is not in the table. -/
lemma exists_read_outside {f : PaintFont} {c : UInt8} (hc : ¬ f.HasGlyph c) :
    ∃ i, f.tableSize ≤ i ∧ ReadsOf f c (.index f.tableSize i) := by
  have hend := (not_congr (place_le_iff f c)).mpr hc
  have hpos := glyphSize_pos f
  rw [Nat.succ_mul] at hend
  exact ⟨_, by omega, f.glyphSize - 1, by omega, rfl⟩

/-- What is drawn and is no character of the font is read from behind the table. -/
lemma not_readsOwn {cfg : PaintConfig} {o : PaintObj} {color : PaintColor} {f : PaintFont}
    {table : ℕ → UInt8} {s : CString} {x y : Int32} {m : Frame} {k : ℕ} (hk : DrawnAt o f s x y k)
    (hc : ¬ f.HasGlyph (s.char k)) : ¬ ReadsOwn cfg o color f table s x y m := by
  rintro ⟨-, hall⟩
  obtain ⟨i, hi, hread⟩ := exists_read_outside hc
  obtain ⟨c, -, j, heq, hheld⟩ := hall _ ((mem_drawStringReads s x y m _).mpr ⟨k, hk, hread⟩)
  cases heq
  exact absurd hheld.1 (Nat.not_lt.mpr hi)

/-- **Glyph look-up.**  Every text is drawn in the end, and it is read from the bytes of its own
characters exactly when each character that is drawn is printable ASCII, and no tilde in Font12. -/
theorem readsOwn_iff (cfg : PaintConfig) (o : PaintObj) (color : PaintColor) (f : PaintFont)
    (table : ℕ → UInt8) (s : CString) (x y : Int32) (m : Frame) :
    ReadsOwn cfg o color f table s x y m
      ↔ ∀ k, DrawnAt o f s x y k → f.HasGlyph (s.char k) := by
  constructor
  · intro h k hk
    by_contra hc
    exact not_readsOwn hk hc h
  · intro h
    refine ⟨by rw [val_drawStringReads]; rfl, fun a ha => ?_⟩
    obtain ⟨k, hk, hread⟩ := (mem_drawStringReads s x y m a).mp ha
    have hc := h k hk
    have hlt : k < s.bytes.length := by
      by_contra hge
      -- behind the text there is the zero, which no font has
      have hzero : s.char k = 0 := by
        rw [CString.char, List.getD_eq_getElem?_getD, List.getElem?_eq_none (Nat.not_lt.mp hge)]
        rfl
      rw [hzero] at hc
      exact absurd hc.1 (by decide)
    have hmem : s.char k ∈ s.bytes := by
      rw [CString.char, List.getD_eq_getElem?_getD, List.getElem?_eq_getElem hlt, Option.getD_some]
      exact List.getElem_mem hlt
    exact ⟨s.char k, hmem, holds_of_readsOf hc hread⟩

/-- A panel of 128 by 64 pixels. -/
def fontPanel : PaintObj := .init ⟨.mode1, .d0, 128, 64, 0, 0, 0, 0, 0⟩

/-- The empty text is read from behind the table, and so are letters beyond ASCII, and the tilde in
Font12. -/
theorem readsOwn_fails :
    ¬ ReadsOwn ⟨false, true, true, true⟩ fontPanel .black .font16 (fun _ => 0)
        ⟨[], by decide⟩ 10 10 (fun _ _ => 0)
      ∧ ¬ ReadsOwn ⟨false, true, true, true⟩ fontPanel .black .font16 (fun _ => 0)
        ⟨[0xc3, 0xa9], by decide⟩ 10 10 (fun _ _ => 0)
      ∧ ¬ ReadsOwn ⟨false, true, true, true⟩ fontPanel .black .font12 (fun _ => 0)
        ⟨[0x7e], by decide⟩ 10 10 (fun _ _ => 0) := by
  have hfirst : ∀ {f : PaintFont} {s : CString}, 0 < s.turns → FitsAt fontPanel f 10 0 →
      ((10 : Int32) + Int32.ofNat f.height.toNat).toUInt32 ≤ fontPanel.yEnd →
      DrawnAt fontPanel f s 10 10 0 := by
    intro f s hturn hx hy
    exact ⟨hturn, fun j hj => Nat.le_zero.mp hj ▸ hx, hy⟩
  refine ⟨not_readsOwn (hfirst ?_ ?_ ?_) ?_, not_readsOwn (hfirst ?_ ?_ ?_) ?_,
    not_readsOwn (hfirst ?_ ?_ ?_) ?_⟩ <;> decide

end NrfEsl
