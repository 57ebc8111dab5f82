import Mathlib.Data.Set.Basic
import Mathlib.Logic.Function.Basic

/-!
# Bits that are set in a memory of bytes

A canvas has some planes, each a memory of bytes.  A pen gives each plane the value of a bit, or leaves
the plane out.  A stroke writes this value to the bits of one byte that a mask selects.

* `Painted pen S m m'` — between `m` and `m'` exactly the bits of the positions `S` have been written.
  It composes (`Painted.trans`), and its result is determined by `S` (`Painted.unique`).
* `Paints`, `PaintsAt` — some positions have been written, and this one among them.
* **On a blank canvas** the positions can be read off the result (`Painted.mem_iff`).
* **Two canvases** agree where the same bits are painted (`Painted.agree`).

`rowByte` is the byte of a pixel where each row has the same number of bytes.
-/

namespace Bitmap

variable {κ ι : Type*}

/-- Memories of bytes, by their planes. -/
abbrev Canvas (κ ι : Type*) := κ → ι → UInt8

/-- The value of a bit on each plane that is used. -/
abbrev Pen (κ : Type*) := κ → Option Bool

/-- `byte |= mask` or `byte &= ~mask`. -/
def maskBits (on : Bool) (byte mask : UInt8) : UInt8 :=
  if on then byte ||| mask else byte &&& ~~~ mask

/-- A stroke on one byte. -/
def stroke [DecidableEq ι] (pen : Pen κ) (i : ι) (mask : UInt8) (m : Canvas κ ι) : Canvas κ ι :=
  fun k =>
    match pen k with
    | some on => Function.update (m k) i (maskBits on (m k i) mask)
    | none => m k

/-- A bit of a byte. -/
def bit (byte : UInt8) (b : ℕ) : Bool := byte.toBitVec.getLsbD b

/-- The positions of a mask in a byte. -/
def maskAt (i : ι) (mask : UInt8) : Set (ι × ℕ) := {p | p.1 = i ∧ bit mask p.2 = true}

/-- Exactly the bits of the positions have been written. -/
structure Painted (pen : Pen κ) (S : Set (ι × ℕ)) (m m' : Canvas κ ι) : Prop where
  inside : ∀ k i b on, b < 8 → pen k = some on → (i, b) ∈ S → bit (m' k i) b = on
  outside : ∀ k i b, b < 8 → (i, b) ∉ S → bit (m' k i) b = bit (m k i) b
  unused : ∀ k, pen k = none → m' k = m k

variable {pen : Pen κ} {S T : Set (ι × ℕ)} {m m' m'' : Canvas κ ι}

/-- Two bytes are equal if their bits are. -/
lemma byte_ext {x y : UInt8} (h : ∀ b < 8, bit x b = bit y b) : x = y :=
  UInt8.toBitVec_inj.mp (BitVec.eq_of_getLsbD_eq h)

lemma bit_maskBits (on : Bool) (byte mask : UInt8) {b : ℕ} (hb : b < 8) :
    bit (maskBits on byte mask) b = if bit mask b = true then on else bit byte b := by
  unfold maskBits bit
  cases on with
  | false =>
      rw [if_neg Bool.false_ne_true, UInt8.toBitVec_and, UInt8.toBitVec_not, BitVec.getLsbD_and,
        BitVec.getLsbD_not, decide_eq_true hb, Bool.true_and]
      cases mask.toBitVec.getLsbD b <;> simp
  | true =>
      rw [if_pos rfl, UInt8.toBitVec_or, BitVec.getLsbD_or]
      cases mask.toBitVec.getLsbD b <;> simp

/-- **A stroke** writes the bits of its mask. -/
theorem painted_stroke [DecidableEq ι] (pen : Pen κ) (i : ι) (mask : UInt8) (m : Canvas κ ι) :
    Painted pen (maskAt i mask) m (stroke pen i mask m) := by
  constructor
  · rintro k j b on hb hpen ⟨rfl, hbit⟩
    simp only [stroke, hpen, Function.update_self]
    rw [bit_maskBits _ _ _ hb, if_pos hbit]
  · intro k j b hb hnot
    rcases hpen : pen k with _ | on
    · simp only [stroke, hpen]
    · simp only [stroke, hpen]
      by_cases hj : j = i
      · subst hj
        rw [Function.update_self, bit_maskBits _ _ _ hb, if_neg fun hbit => hnot ⟨rfl, hbit⟩]
      · rw [Function.update_of_ne hj]
  · intro k hpen
    simp only [stroke, hpen]

/-- Nothing has been written. -/
lemma Painted.refl (pen : Pen κ) (m : Canvas κ ι) : Painted pen ∅ m m :=
  ⟨fun _ _ _ _ _ _ h => h.elim, fun _ _ _ _ _ => rfl, fun _ _ => rfl⟩

/-- **One after the other.** -/
theorem Painted.trans (h : Painted pen S m m') (h' : Painted pen T m' m'') :
    Painted pen (S ∪ T) m m'' := by
  constructor
  · intro k i b on hb hpen hin
    by_cases hT : (i, b) ∈ T
    · exact h'.inside k i b on hb hpen hT
    · rw [h'.outside k i b hb hT]
      exact h.inside k i b on hb hpen (hin.resolve_right hT)
  · intro k i b hb hnot
    rw [h'.outside k i b hb fun hT => hnot (.inr hT), h.outside k i b hb fun hS => hnot (.inl hS)]
  · intro k hpen
    rw [h'.unused k hpen, h.unused k hpen]

/-- Only the bits of a byte count. -/
lemma Painted.congr (h : Painted pen S m m') (hST : ∀ i b, b < 8 → ((i, b) ∈ S ↔ (i, b) ∈ T)) :
    Painted pen T m m' :=
  ⟨fun k i b on hb hpen hin => h.inside k i b on hb hpen ((hST i b hb).mpr hin),
    fun k i b hb hnot => h.outside k i b hb fun hin => hnot ((hST i b hb).mp hin), h.unused⟩

/-- **The positions determine the result.** -/
theorem Painted.unique (h : Painted pen S m m') (h' : Painted pen S m m'') : m' = m'' := by
  funext k i
  rcases hpen : pen k with _ | on
  · rw [h.unused k hpen, h'.unused k hpen]
  · refine byte_ext fun b hb => ?_
    by_cases hin : (i, b) ∈ S
    · rw [h.inside k i b on hb hpen hin, h'.inside k i b on hb hpen hin]
    · rw [h.outside k i b hb hin, h'.outside k i b hb hin]

/-- Nothing but painting has been done. -/
def Paints (pen : Pen κ) (m m' : Canvas κ ι) : Prop := ∃ S, Painted pen S m m'

/-- And this bit has been painted. -/
def PaintsAt (pen : Pen κ) (q : ι × ℕ) (m m' : Canvas κ ι) : Prop := ∃ S, q ∈ S ∧ Painted pen S m m'

section Paints

variable {q : ι × ℕ}

lemma Paints.refl (pen : Pen κ) (m : Canvas κ ι) : Paints pen m m := ⟨∅, Painted.refl pen m⟩

lemma Paints.trans (h : Paints pen m m') (h' : Paints pen m' m'') : Paints pen m m'' := by
  obtain ⟨S, hS⟩ := h
  obtain ⟨T, hT⟩ := h'
  exact ⟨S ∪ T, hS.trans hT⟩

/-- What has been painted stays. -/
lemma PaintsAt.trans (h : PaintsAt pen q m m') (h' : Paints pen m' m'') : PaintsAt pen q m m'' := by
  obtain ⟨S, hq, hS⟩ := h
  obtain ⟨T, hT⟩ := h'
  exact ⟨S ∪ T, .inl hq, hS.trans hT⟩

lemma Paints.trans_at (h : Paints pen m m') (h' : PaintsAt pen q m' m'') : PaintsAt pen q m m'' := by
  obtain ⟨S, hS⟩ := h
  obtain ⟨T, hq, hT⟩ := h'
  exact ⟨S ∪ T, .inr hq, hS.trans hT⟩

end Paints

/-- A canvas on which everything that is written can be seen. -/
def blank (pen : Pen κ) : Canvas κ ι := fun k _ =>
  match pen k with
  | some true => 0
  | _ => 0xff

lemma bit_blank {k : κ} {on : Bool} (hpen : pen k = some on) (i : ι) {b : ℕ} (hb : b < 8) :
    bit (blank pen k i) b = !on := by
  have hones : ∀ b < 8, bit 0xff b = true := by decide
  have hzeros : ∀ b < 8, bit 0 b = false := by decide
  cases on with
  | false =>
      simp only [blank, hpen]
      exact hones b hb
  | true =>
      simp only [blank, hpen]
      exact hzeros b hb

/-- On the blank canvas the positions can be read off. -/
lemma Painted.mem_iff {k : κ} {on : Bool} (hpen : pen k = some on)
    (h : Painted pen S (blank pen) m') {i : ι} {b : ℕ} (hb : b < 8) :
    (i, b) ∈ S ↔ bit (m' k i) b = on := by
  constructor
  · exact h.inside k i b on hb hpen
  · intro hbit
    by_contra hnot
    rw [h.outside k i b hb hnot, bit_blank hpen i hb] at hbit
    cases on <;> cases hbit

/-! ## Two canvases -/

/-- On one plane, bytes that belong together are equal. -/
def Agree {ι' : Type*} (R : ι → ι' → Prop) (k : κ) (m : Canvas κ ι) (n : Canvas κ ι') : Prop :=
  ∀ i j, R i j → m k i = n k j

/-- **Painting the same bits on both** keeps them equal. -/
theorem Painted.agree {ι' : Type*} {R : ι → ι' → Prop} {k : κ} {U : Set (ι' × ℕ)}
    {n n' : Canvas κ ι'} (h : Painted pen S m m') (h' : Painted pen U n n')
    (hbits : ∀ i j b, R i j → b < 8 → ((i, b) ∈ S ↔ (j, b) ∈ U)) (hagree : Agree R k m n) :
    Agree R k m' n' := by
  intro i j hR
  rcases hpen : pen k with _ | on
  · rw [h.unused k hpen, h'.unused k hpen]
    exact hagree i j hR
  · refine byte_ext fun b hb => ?_
    by_cases hin : (i, b) ∈ S
    · rw [h.inside k i b on hb hpen hin, h'.inside k j b on hb hpen ((hbits i j b hR hb).mp hin)]
    · rw [h.outside k i b hb hin, h'.outside k j b hb fun hU => hin ((hbits i j b hR hb).mpr hU),
        hagree i j hR]

/-! ## Rows of bytes -/

/-- The byte of a column in a row of `stride` bytes. -/
def rowByte (stride c r : ℕ) : ℕ := r * stride + c / 8

/-- Every byte of `n` rows is below their end. -/
lemma rowByte_lt {stride c r n : ℕ} (hc : c / 8 < stride) (hr : r < n) :
    rowByte stride c r < n * stride := by
  have hle : (r + 1) * stride ≤ n * stride := Nat.mul_le_mul_right stride hr
  rw [Nat.succ_mul] at hle
  rw [rowByte]
  omega

/-- Rows that are filled up to whole bytes have no bytes but those of their columns. -/
lemma exists_rowByte {w n p : ℕ} (h : p < n * ((w + 7) / 8)) :
    ∃ r < n, ∃ c < w, p = rowByte ((w + 7) / 8) c r := by
  have hpos : 0 < (w + 7) / 8 := Nat.pos_of_ne_zero fun hzero => by
    rw [hzero, Nat.mul_zero] at h
    exact absurd h (Nat.not_lt_zero p)
  have hcol := Nat.mod_lt p hpos
  refine ⟨p / ((w + 7) / 8), Nat.div_lt_of_lt_mul (Nat.mul_comm n _ ▸ h),
    8 * (p % ((w + 7) / 8)), by omega, ?_⟩
  rw [rowByte, Nat.mul_div_cancel_left _ (by decide), Nat.mul_comm]
  exact (Nat.div_add_mod p _).symm

/-- **A byte has one place** if no row is longer than its bytes. -/
lemma rowByte_inj {stride c r c' r' : ℕ} (hc : c / 8 < stride) (hc' : c' / 8 < stride)
    (h : rowByte stride c r = rowByte stride c' r') : r = r' ∧ c / 8 = c' / 8 := by
  have hpos : 0 < stride := by omega
  have hrow : ∀ {c r : ℕ}, c / 8 < stride → rowByte stride c r / stride = r := by
    intro c r hc
    rw [rowByte, Nat.add_comm, Nat.add_mul_div_right _ _ hpos, Nat.div_eq_of_lt hc, Nat.zero_add]
  have hr : r = r' := (hrow hc).symm.trans ((congrArg (· / stride) h).trans (hrow hc'))
  subst hr
  exact ⟨rfl, Nat.add_left_cancel h⟩

end Bitmap
