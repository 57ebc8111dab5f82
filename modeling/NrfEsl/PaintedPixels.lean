import NrfEsl.PixelAddressing

/-!
# What points and lines paint

A pixel of the panel is a bit of the frame, if its row is kept: `pixelBits`.

* `painted_paintDrawPoint`, `painted_drawPoints` — points.
* `painted_drawHline` — a line, by its three loops.  On a line that does not come near the end of the
  numbers of 32 bits they end, and paint one part of it each.
* `painted_fillRows` — the rows of a rectangle.
-/

namespace NrfEsl

open Bitmap

variable {cfg : PaintConfig} {o : PaintObj} {color : PaintColor}

/-- The bit of a pixel, by its column and row on the panel. -/
def pixelBits (cfg : PaintConfig) (o : PaintObj) (p : ℕ × ℕ) : Set (UInt32 × ℕ) :=
  {q | o.Keeps p.2 ∧ q.1 = UInt32.ofNat (rowByte (o.width.toNat / 8) p.1 (p.2 - o.firstRow))
    ∧ q.2 = cfg.bitOf p.1}

/-! ## Points -/

variable (cfg color) in
/-- **A point** paints its pixel. -/
theorem painted_paintDrawPoint (hp : o.Prepared) {x y : UInt32} (h : InArea o x.toNat y.toNat)
    (m : Frame) :
    Painted (cfg.pen color) (pixelBits cfg o (panelPoint o x.toNat y.toNat)) m
      (paintDrawPoint cfg o color x y m) := by
  rw [paintDrawPoint, pointTarget_of_inArea hp h]
  split
  · rename_i t ht
    split at ht
    · rename_i hkeeps
      obtain rfl := Option.some.inj ht
      refine (painted_stroke _ _ _ m).congr fun i b hb => ?_
      constructor
      · rintro ⟨hi, hbit⟩
        have hcol := (bit_mask cfg _ hb).mp hbit
        rw [(toPanel_toNat h).1] at hcol
        exact ⟨hkeeps, hi, hcol⟩
      · rintro ⟨-, hi, hcol⟩
        refine ⟨hi, (bit_mask cfg _ hb).mpr ?_⟩
        rw [(toPanel_toNat h).1]
        exact hcol
    · cases ht
  · rename_i hnone
    split at hnone
    · cases hnone
    · rename_i hkeeps
      refine (Painted.refl _ m).congr fun i b hb => ?_
      exact ⟨fun h => h.elim, fun h => hkeeps h.1⟩

/-- Points one after the other. -/
def drawPoints (cfg : PaintConfig) (o : PaintObj) (color : PaintColor) (ps : List (UInt32 × UInt32))
    (m : Frame) : Frame :=
  ps.foldl (fun m p => paintDrawPoint cfg o color p.1 p.2 m) m

variable (cfg color) in
theorem painted_drawPoints (hp : o.Prepared) (ps : List (UInt32 × UInt32))
    (h : ∀ p ∈ ps, InArea o p.1.toNat p.2.toNat) (m : Frame) :
    Painted (cfg.pen color)
      {q | ∃ p ∈ ps, q ∈ pixelBits cfg o (panelPoint o p.1.toNat p.2.toNat)} m
      (drawPoints cfg o color ps m) := by
  induction ps generalizing m with
  | nil =>
      refine (Painted.refl _ m).congr fun i b hb => ?_
      exact ⟨fun h => h.elim, fun ⟨p, hp, _⟩ => absurd hp List.not_mem_nil⟩
  | cons p ps ih =>
      have hfirst := painted_paintDrawPoint cfg color hp (h p List.mem_cons_self) m
      have hrest := ih (fun p' hp' => h p' (List.mem_cons_of_mem p hp'))
        (paintDrawPoint cfg o color p.1 p.2 m)
      refine (hfirst.trans hrest).congr fun i b hb => ?_
      constructor
      · rintro (hin | ⟨p', hp', hin⟩)
        · exact ⟨p, List.mem_cons_self, hin⟩
        · exact ⟨p', List.mem_cons_of_mem p hp', hin⟩
      · rintro ⟨p', hp', hin⟩
        rcases List.mem_cons.mp hp' with rfl | hp'
        · exact .inl hin
        · exact .inr ⟨p', hp', hin⟩

/-! ## Lines -/

/-- The bits of the columns from `a` to `b` in a row of the buffer. -/
def spanBits (cfg : PaintConfig) (o : PaintObj) (row a b : ℕ) : Set (UInt32 × ℕ) :=
  {q | ∃ c, a ≤ c ∧ c < b ∧ q.1 = UInt32.ofNat (rowByte (o.width.toNat / 8) c row)
    ∧ q.2 = cfg.bitOf c}

lemma spanBits_empty {row a b : ℕ} (h : b ≤ a) : spanBits cfg o row a b = ∅ := by
  refine Set.eq_empty_iff_forall_notMem.mpr ?_
  rintro q ⟨c, ha, hb, -⟩
  omega

lemma spanBits_union {row a b c : ℕ} (hab : a ≤ b) (hbc : b ≤ c) :
    spanBits cfg o row a b ∪ spanBits cfg o row b c = spanBits cfg o row a c := by
  refine Set.ext fun q => ?_
  constructor
  · rintro (⟨n, ha, hb, hq⟩ | ⟨n, ha, hb, hq⟩)
    · exact ⟨n, ha, by omega, hq⟩
    · exact ⟨n, by omega, hb, hq⟩
  · rintro ⟨n, ha, hc, hq⟩
    by_cases hn : n < b
    · exact .inl ⟨n, ha, hn, hq⟩
    · exact .inr ⟨n, by omega, hc, hq⟩

variable (cfg o color) in
/-- A stroke on one pixel of the byte of a column. -/
lemma painted_pixel (row : UInt32) {x i : UInt32} (hbyte : x.toNat / 8 = i.toNat / 8) (m : Frame) :
    Painted (cfg.pen color) (spanBits cfg o row.toNat i.toNat (i.toNat + 1)) m
      (setcolor cfg color (o.byteIndex x row) (cfg.mask i) m) := by
  refine (painted_stroke _ _ _ m).congr fun j b hb => ?_
  have hindex : o.byteIndex x row
      = UInt32.ofNat (rowByte (o.width.toNat / 8) i.toNat row.toNat) := by
    rw [byteIndex_eq, rowByte, rowByte, hbyte]
  constructor
  · rintro ⟨hj, hbit⟩
    exact ⟨i.toNat, Nat.le_refl _, Nat.lt_succ_self _, hj.trans hindex, (bit_mask cfg i hb).mp hbit⟩
  · rintro ⟨c, hle, hlt, hj, hbit⟩
    obtain rfl : c = i.toNat := by omega
    exact ⟨hj.trans hindex.symm, (bit_mask cfg i hb).mpr hbit⟩

variable (cfg o color) in
/-- A stroke on a whole byte. -/
lemma painted_byte (row : UInt32) {i : UInt32} (hi : i.toNat % 8 = 0) (m : Frame) :
    Painted (cfg.pen color) (spanBits cfg o row.toNat i.toNat (i.toNat + 8)) m
      (setcolor cfg color (o.byteIndex i row) 0xff m) := by
  have hones : ∀ b < 8, bit 0xff b = true := by decide
  refine (painted_stroke _ _ _ m).congr fun j b hb => ?_
  have hindex : ∀ c, i.toNat ≤ c → c < i.toNat + 8 → o.byteIndex i row
      = UInt32.ofNat (rowByte (o.width.toNat / 8) c row.toNat) := by
    intro c hle hlt
    have hbyte : i.toNat / 8 = c / 8 := by omega
    rw [byteIndex_eq, rowByte, rowByte, hbyte]
  constructor
  · rintro ⟨hj, -⟩
    -- the column of this bit
    have hcol : ∃ c, i.toNat ≤ c ∧ c < i.toNat + 8 ∧ b = cfg.bitOf c := by
      unfold PaintConfig.bitOf
      by_cases hmsb : cfg.msbFirst = true
      · refine ⟨i.toNat + (7 - b), by omega, by omega, ?_⟩
        rw [if_pos hmsb]
        omega
      · refine ⟨i.toNat + b, by omega, by omega, ?_⟩
        rw [if_neg hmsb]
        omega
    obtain ⟨c, hle, hlt, hbit⟩ := hcol
    exact ⟨c, hle, hlt, hj.trans (hindex c hle hlt), hbit⟩
  · rintro ⟨c, hle, hlt, hj, -⟩
    exact ⟨hj.trans (hindex c hle hlt).symm, hones b hb⟩

/-! ### The loops -/

lemma toNat_add_of_lt {i j : UInt32} (h : i.toNat + j.toNat < 2 ^ 32) :
    (i + j).toNat = i.toNat + j.toNat := by
  rw [UInt32.toNat_add, Nat.mod_eq_of_lt h]

/-- `x & ~0x7` is the first column of the byte. -/
lemma toNat_and_not_seven (x : UInt32) : (x &&& ~~~ 7).toNat = x.toNat / 8 * 8 := by
  have hmask : ∀ i < 32, Nat.testBit 4294967288 i = decide (3 ≤ i) := by decide
  have hx := x.toNat_lt
  rw [UInt32.toNat_and]
  refine Nat.eq_of_testBit_eq fun i => ?_
  have hdiv : x.toNat / 8 * 8 = x.toNat / 2 ^ 3 * 2 ^ 3 := rfl
  have hnot : (~~~ (7 : UInt32)).toNat = 4294967288 := rfl
  rw [hdiv, hnot, Nat.testBit_and, Nat.testBit_mul_two_pow, Nat.testBit_div_two_pow]
  by_cases hi : i < 32
  · rw [hmask i hi]
    by_cases hthree : 3 ≤ i
    · rw [decide_eq_true hthree, Bool.and_true, Bool.true_and, Nat.sub_add_cancel hthree]
    · rw [decide_eq_false hthree, Bool.and_false, Bool.false_and]
  · have hbig : x.toNat < 2 ^ i := lt_of_lt_of_le hx (Nat.pow_le_pow_right (by decide) (by omega))
    rw [Nat.testBit_lt_two_pow hbig, Bool.false_and, Nat.sub_add_cancel (by omega),
      Nat.testBit_lt_two_pow hbig, Bool.and_false]

/-- The end of the byte of a column. -/
def byteEnd (x : UInt32) : ℕ := x.toNat / 8 * 8 + 8

lemma toNat_byteEnd {x : UInt32} (h : x.toNat + 8 < 2 ^ 32) : (8 + (x &&& ~~~ 7)).toNat = byteEnd x := by
  have hbyte := toNat_and_not_seven x
  rw [toNat_add_of_lt (by rw [hbyte]; show 8 + _ < _; omega), hbyte, byteEnd]
  exact Nat.add_comm _ _

variable {x w row : UInt32}

variable (cfg o color row) in
/-- **The first loop** paints up to the end of the line or of the byte, and returns if the line ends
first. -/
lemma painted_hlineHead (hx : x.toNat + 8 < 2 ^ 32) {e : ℕ} (he : (x + w).toNat = e) (fuel : ℕ)
    {i : UInt32} (hle : x.toNat ≤ i.toNat) (hend : i.toNat ≤ byteEnd x)
    (hin : i.toNat < byteEnd x ∨ byteEnd x ≤ e) (hfuel : byteEnd x - i.toNat < fuel) (m : Frame) :
    ∃ m', hlineHead cfg o color x w row fuel i m
        = some (m', if e < byteEnd x then none else some (UInt32.ofNat (byteEnd x)))
      ∧ Painted (cfg.pen color) (spanBits cfg o row.toNat i.toNat (min e (byteEnd x))) m m' := by
  induction fuel generalizing i m with
  | zero => omega
  | succ fuel ih =>
      rw [hlineHead]
      by_cases hi : i < 8 + (x &&& ~~~ 7)
      · rw [if_pos hi]
        rw [UInt32.lt_iff_toNat_lt, toNat_byteEnd hx] at hi
        by_cases hlast : i ≥ x + w
        · rw [if_pos hlast]
          rw [ge_iff_le, UInt32.le_iff_toNat_le, he] at hlast
          rw [if_pos (by omega), spanBits_empty (by omega)]
          exact ⟨m, rfl, Painted.refl _ m⟩
        · rw [if_neg hlast]
          rw [ge_iff_le, UInt32.le_iff_toNat_le, he] at hlast
          unfold byteEnd at hi hend hfuel ⊢
          have hnext : (i + 1).toNat = i.toNat + 1 :=
            toNat_add_of_lt (by show i.toNat + 1 < _; omega)
          have hfirst := painted_pixel cfg o color row (x := x) (i := i) (by omega) m
          obtain ⟨m', hloop, hrest⟩ := ih (i := i + 1) (by omega) (by unfold byteEnd; omega)
            (by unfold byteEnd; omega) (by unfold byteEnd; omega)
            (setcolor cfg color (o.byteIndex x row) (cfg.mask i) m)
          refine ⟨m', hloop, ?_⟩
          rw [hnext] at hrest
          have hall := hfirst.trans hrest
          unfold byteEnd at hall
          rwa [spanBits_union (by omega) (by omega)] at hall
      · rw [if_neg hi]
        rw [UInt32.lt_iff_toNat_lt, toNat_byteEnd hx] at hi
        have hsame : UInt32.ofNat (byteEnd x) = i := by
          refine UInt32.toNat_inj.mp ?_
          have hlt := i.toNat_lt
          rw [UInt32.toNat_ofNat', Nat.mod_eq_of_lt (by omega)]
          omega
        rw [if_neg (by omega), hsame, spanBits_empty (by omega)]
        exact ⟨m, rfl, Painted.refl _ m⟩

variable (cfg o color row) in
/-- **The second loop** paints whole bytes, and leaves less than one more than a byte. -/
lemma painted_hlineBytes {e : ℕ} (he : (x + w).toNat = e) (hlimit : e + 8 < 2 ^ 32) (fuel : ℕ)
    {i : UInt32} (hi : i.toNat % 8 = 0) (hle : i.toNat ≤ e) (hfuel : e - i.toNat < fuel) (m : Frame) :
    ∃ m' i', hlineBytes cfg o color x w row fuel i m = some (m', i') ∧ i.toNat ≤ i'.toNat
      ∧ i'.toNat ≤ e
      ∧ Painted (cfg.pen color) (spanBits cfg o row.toNat i.toNat i'.toNat) m m' := by
  induction fuel generalizing i m with
  | zero => omega
  | succ fuel ih =>
      have hnext : (i + 8).toNat = i.toNat + 8 := toNat_add_of_lt (by show i.toNat + 8 < _; omega)
      rw [hlineBytes]
      by_cases hmore : i + 8 < x + w
      · rw [if_pos hmore]
        rw [UInt32.lt_iff_toNat_lt, hnext, he] at hmore
        have hfirst := painted_byte cfg o color row hi m
        obtain ⟨m', i', hloop, hle', hend, hrest⟩ := ih (i := i + 8) (by omega) (by omega) (by omega)
          (setcolor cfg color (o.byteIndex i row) 0xff m)
        refine ⟨m', i', hloop, by omega, hend, ?_⟩
        rw [hnext] at hrest
        have hall := hfirst.trans hrest
        rwa [spanBits_union (by omega) (by omega)] at hall
      · rw [if_neg hmore]
        refine ⟨m, i, rfl, Nat.le_refl _, hle, ?_⟩
        rw [spanBits_empty (Nat.le_refl _)]
        exact Painted.refl _ m

variable (cfg o color row) in
/-- **The last loop** paints the rest. -/
lemma painted_hlineTail {e : ℕ} (he : (x + w).toNat = e) (fuel : ℕ) {i : UInt32} (hle : i.toNat ≤ e)
    (hfuel : e - i.toNat < fuel) (m : Frame) :
    ∃ m', hlineTail cfg o color x w row fuel i m = some m'
      ∧ Painted (cfg.pen color) (spanBits cfg o row.toNat i.toNat e) m m' := by
  have hlt := (x + w).toNat_lt
  induction fuel generalizing i m with
  | zero => omega
  | succ fuel ih =>
      rw [hlineTail]
      by_cases hmore : i < x + w
      · rw [if_pos hmore]
        rw [UInt32.lt_iff_toNat_lt, he] at hmore
        have hnext : (i + 1).toNat = i.toNat + 1 := toNat_add_of_lt (by show i.toNat + 1 < _; omega)
        have hfirst := painted_pixel cfg o color row (x := i) (i := i) rfl m
        obtain ⟨m', hloop, hrest⟩ := ih (i := i + 1) (by omega) (by omega)
          (setcolor cfg color (o.byteIndex i row) (cfg.mask i) m)
        refine ⟨m', hloop, ?_⟩
        rw [hnext] at hrest
        have hall := hfirst.trans hrest
        rwa [spanBits_union (by omega) (by omega)] at hall
      · rw [if_neg hmore]
        rw [UInt32.lt_iff_toNat_lt, he] at hmore
        rw [spanBits_empty (by omega)]
        exact ⟨m, rfl, Painted.refl _ m⟩

/-- The bits of a line, by its row on the panel. -/
def lineBits (cfg : PaintConfig) (o : PaintObj) (row a b : ℕ) : Set (UInt32 × ℕ) :=
  {q | ∃ c, a ≤ c ∧ c < b ∧ q ∈ pixelBits cfg o (c, row)}

lemma lineBits_of_keeps {row a b : ℕ} (h : o.Keeps row) :
    lineBits cfg o row a b = spanBits cfg o (row - o.firstRow) a b := by
  refine Set.ext fun q => ?_
  constructor
  · rintro ⟨c, ha, hb, -, hq⟩
    exact ⟨c, ha, hb, hq⟩
  · rintro ⟨c, ha, hb, hq⟩
    exact ⟨c, ha, hb, h, hq⟩

lemma lineBits_of_not_keeps {row a b : ℕ} (h : ¬ o.Keeps row) : lineBits cfg o row a b = ∅ := by
  refine Set.eq_empty_iff_forall_notMem.mpr ?_
  rintro q ⟨c, ha, hb, hkeeps, -⟩
  exact h hkeeps

variable (cfg color) in
/-- **A line** of the panel paints its pixels, if it stays away from the end of the numbers. -/
theorem painted_drawHline {y : UInt32} (hy : y.toNat < o.height.toNat)
    (hlimit : x.toNat + w.toNat + 8 < 2 ^ 32) (m : Frame) :
    ∃ m', drawHline cfg o color x y w m = some m'
      ∧ Painted (cfg.pen color)
        (lineBits cfg o (flipRow o y.toNat) x.toNat (x.toNat + w.toNat)) m m' := by
  have he : (x + w).toNat = x.toNat + w.toNat := toNat_add_of_lt (by omega)
  have hheight := o.height.toNat_lt
  have hrowLt : flipRow o y.toNat < o.height.toNat := by
    unfold flipRow
    split <;> omega
  rw [drawHline, bandRow_eq hy]
  by_cases hkeeps : o.Keeps (flipRow o y.toNat)
  · rw [if_pos hkeeps, lineBits_of_keeps hkeeps]
    dsimp only
    have hrow : (UInt32.ofNat (flipRow o y.toNat - o.firstRow)).toNat
        = flipRow o y.toNat - o.firstRow := by
      rw [UInt32.toNat_ofNat', Nat.mod_eq_of_lt (by omega)]
    have hbyte : x.toNat < byteEnd x := by
      unfold byteEnd
      omega
    have hbyte' : byteEnd x ≤ x.toNat + 8 := by
      unfold byteEnd
      omega
    obtain ⟨m₁, hhead, hpaint⟩ := painted_hlineHead cfg o color
      (UInt32.ofNat (flipRow o y.toNat - o.firstRow)) (by omega) he paintFuel (Nat.le_refl _)
      hbyte.le (.inl hbyte) (by unfold paintFuel; omega) m
    rw [hhead]
    rw [hrow] at hpaint
    by_cases hshort : x.toNat + w.toNat < byteEnd x
    · rw [if_pos hshort]
      rw [Nat.min_eq_left hshort.le] at hpaint
      exact ⟨m₁, rfl, hpaint⟩
    · rw [if_neg hshort]
      rw [Nat.min_eq_right (by omega)] at hpaint
      have hend : (UInt32.ofNat (byteEnd x)).toNat = byteEnd x := by
        rw [UInt32.toNat_ofNat', Nat.mod_eq_of_lt (by omega)]
      obtain ⟨m₂, i, hbytes, hle, hlt, hpaint₂⟩ := painted_hlineBytes cfg o color
        (UInt32.ofNat (flipRow o y.toNat - o.firstRow)) he hlimit paintFuel
        (i := UInt32.ofNat (byteEnd x)) (by rw [hend]; unfold byteEnd; omega) (by omega)
        (by unfold paintFuel; omega) m₁
      obtain ⟨m₃, htail, hpaint₃⟩ := painted_hlineTail cfg o color
        (UInt32.ofNat (flipRow o y.toNat - o.firstRow)) he paintFuel hlt
        (by unfold paintFuel; omega) m₂
      refine ⟨m₃, ?_, ?_⟩
      · show (hlineBytes cfg o color x w _ paintFuel (UInt32.ofNat (byteEnd x)) m₁).bind _ = _
        rw [hbytes]
        exact htail
      · rw [hrow, hend] at hpaint₂
        rw [hrow] at hpaint₃
        have hall := hpaint.trans (hpaint₂.trans hpaint₃)
        rw [hend] at hle
        rwa [spanBits_union hle hlt, spanBits_union hbyte.le (by omega)] at hall
  · rw [if_neg hkeeps, lineBits_of_not_keeps hkeeps]
    exact ⟨m, rfl, Painted.refl _ m⟩

/-! ## Rows -/

/-- The rows from `i` on, if each of them paints `B`. -/
lemma painted_fillRows_from {p : PaintRect} (hlimit : p.y.toNat + p.height.toNat < 2 ^ 32)
    {B : ℕ → Set (UInt32 × ℕ)}
    (hrow : ∀ i : UInt32, p.y.toNat ≤ i.toNat → i.toNat < p.y.toNat + p.height.toNat → ∀ m,
      ∃ m', drawHline cfg o color p.x i p.width m = some m'
        ∧ Painted (cfg.pen color) (B i.toNat) m m') (fuel : ℕ) {i : UInt32}
    (hle : p.y.toNat ≤ i.toNat) (hend : i.toNat ≤ p.y.toNat + p.height.toNat)
    (hfuel : p.y.toNat + p.height.toNat - i.toNat < fuel) (m : Frame) :
    ∃ m', fillRows cfg o color p fuel i m = some m'
      ∧ Painted (cfg.pen color)
        {q | ∃ r, i.toNat ≤ r ∧ r < p.y.toNat + p.height.toNat ∧ q ∈ B r} m m' := by
  have hsum : (p.y + p.height).toNat = p.y.toNat + p.height.toNat := toNat_add_of_lt hlimit
  induction fuel generalizing i m with
  | zero => omega
  | succ fuel ih =>
      rw [fillRows]
      by_cases hmore : i < p.y + p.height
      · rw [if_pos hmore]
        rw [UInt32.lt_iff_toNat_lt, hsum] at hmore
        have hnext : (i + 1).toNat = i.toNat + 1 := toNat_add_of_lt (by show i.toNat + 1 < _; omega)
        obtain ⟨m₁, hline, hfirst⟩ := hrow i hle hmore m
        obtain ⟨m₂, hloop, hrest⟩ := ih (i := i + 1) (by omega) (by omega) (by omega) m₁
        rw [hline]
        refine ⟨m₂, hloop, (hfirst.trans hrest).congr fun j b hb => ?_⟩
        rw [hnext]
        constructor
        · rintro (hin | ⟨r, hr, hr', hin⟩)
          · exact ⟨i.toNat, Nat.le_refl _, hmore, hin⟩
          · exact ⟨r, by omega, hr', hin⟩
        · rintro ⟨r, hr, hr', hin⟩
          by_cases hri : r = i.toNat
          · subst hri
            exact .inl hin
          · exact .inr ⟨r, by omega, hr', hin⟩
      · rw [if_neg hmore]
        rw [UInt32.lt_iff_toNat_lt, hsum] at hmore
        refine ⟨m, rfl, (Painted.refl _ m).congr fun j b hb => ?_⟩
        refine ⟨fun h => h.elim, ?_⟩
        rintro ⟨r, hr, hr', -⟩
        omega

variable (cfg color) in
/-- **The loop over the rows** paints what the rows paint. -/
theorem painted_fillRows {p : PaintRect} (hlimit : p.y.toNat + p.height.toNat < 2 ^ 32)
    {B : ℕ → Set (UInt32 × ℕ)}
    (hrow : ∀ i : UInt32, p.y.toNat ≤ i.toNat → i.toNat < p.y.toNat + p.height.toNat → ∀ m,
      ∃ m', drawHline cfg o color p.x i p.width m = some m'
        ∧ Painted (cfg.pen color) (B i.toNat) m m') (m : Frame) :
    ∃ m', fillRows cfg o color p paintFuel p.y m = some m'
      ∧ Painted (cfg.pen color)
        {q | ∃ r, p.y.toNat ≤ r ∧ r < p.y.toNat + p.height.toNat ∧ q ∈ B r} m m' :=
  painted_fillRows_from hlimit hrow paintFuel (Nat.le_refl _) (Nat.le_add_right _ _)
    (by unfold paintFuel; omega) m

/-- The bits of a rectangle of the panel, from column `a` and row `y` on. -/
def boxBits (cfg : PaintConfig) (o : PaintObj) (a y w h : ℕ) : Set (UInt32 × ℕ) :=
  {q | ∃ row c, (y ≤ row ∧ row < y + h) ∧ (a ≤ c ∧ c < a + w)
    ∧ q ∈ pixelBits cfg o (c, flipRow o row)}

/-- **A rectangle** whose rows are on the panel. -/
theorem painted_fillRows_of_panel (cfg : PaintConfig) (color : PaintColor) {p : PaintRect}
    (hrows : p.y.toNat + p.height.toNat ≤ o.height.toNat)
    (hlimit : p.x.toNat + p.width.toNat + 8 < 2 ^ 32) (m : Frame) :
    ∃ m', fillRows cfg o color p paintFuel p.y m = some m'
      ∧ Painted (cfg.pen color)
        (boxBits cfg o p.x.toNat p.y.toNat p.width.toNat p.height.toNat) m m' := by
  have hheight := o.height.toNat_lt
  obtain ⟨m', hloop, hpaint⟩ := painted_fillRows cfg color (by omega)
    (B := fun r => lineBits cfg o (flipRow o r) p.x.toNat (p.x.toNat + p.width.toNat))
    (fun i hle hlt => painted_drawHline cfg color (by omega) hlimit) m
  refine ⟨m', hloop, hpaint.congr fun i b hb => ?_⟩
  constructor
  · rintro ⟨row, hy, hy', c, hc, hc', hq⟩
    exact ⟨row, c, ⟨hy, hy'⟩, ⟨hc, hc'⟩, hq⟩
  · rintro ⟨row, c, ⟨hy, hy'⟩, ⟨hc, hc'⟩, hq⟩
    exact ⟨row, hy, hy', c, hc, hc', hq⟩

end NrfEsl
