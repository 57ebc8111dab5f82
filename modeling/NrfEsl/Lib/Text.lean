import Mathlib.Data.Int.Notation
import Mathlib.Data.List.Basic
import Mathlib.Data.List.TakeWhile

/-!
# Text of a command line

What is exchanged on a command line: words, numerals and bytes in hexadecimal, as lists of
characters.

* `words` — the words of a line, separated by blanks.
* `number?`, `strtol` — a numeral that is read as a whole, and the C function, which reads as far as
  it can.
* `toHex`, `ofHex?` — two digits a byte, the high half first; both cases are read.
* `hexBytes?` — the same for an odd number of digits, the first byte having one.

**Round trips.**  `words_append_blank` reads a word back off the front of a line, `ofHex?_toHex` the
bytes that were written.
-/

namespace Text

/-! ## Words -/

/-- The words of a line. -/
def words (line : List Char) : List (List Char) := (line.splitOn ' ').filter (!·.isEmpty)

/-- A word has a character and no blank. -/
def IsWord (w : List Char) : Prop := w ≠ [] ∧ ∀ c ∈ w, c ≠ ' '

@[simp] lemma words_nil : words [] = [] := by decide

/-- A line that goes on behind a blank. -/
lemma words_append (cs line : List Char) : words (cs ++ ' ' :: line) = words cs ++ words line := by
  simp only [words, List.splitOn_eq_splitOnP]
  rw [List.splitOnP_append_cons cs line (by rfl), List.filter_append]

lemma words_blank (line : List Char) : words (' ' :: line) = words line :=
  words_append [] line

lemma words_of_isWord {w : List Char} (hw : IsWord w) : words w = [w] := by
  have hsplit : w.splitOn ' ' = [w] := by
    rw [List.splitOn_eq_splitOnP]
    refine List.splitOnP_eq_singleton fun c hc => ?_
    exact beq_eq_false_iff_ne.mpr (hw.2 c hc)
  have hempty : w.isEmpty = false := List.isEmpty_eq_false_iff.mpr hw.1
  simp only [words, hsplit, List.filter_cons, hempty, List.filter_nil]
  rfl

/-- **The first word of a line.** -/
lemma words_append_blank {w : List Char} (hw : IsWord w) (line : List Char) :
    words (w ++ ' ' :: line) = w :: words line := by
  rw [words_append, words_of_isWord hw, List.singleton_append]

/-- Words with a blank behind each. -/
lemma words_flatMap {ws : List (List Char)} (hws : ∀ w ∈ ws, IsWord w) :
    words (ws.flatMap (· ++ [' '])) = ws := by
  induction ws with
  | nil => rfl
  | cons w ws ih =>
      have hline : (w :: ws).flatMap (· ++ [' ']) = w ++ ' ' :: ws.flatMap (· ++ [' ']) := by
        rw [List.flatMap_cons, List.append_assoc]
        rfl
      rw [hline, words_append_blank (hws w List.mem_cons_self),
        ih fun w' hw' => hws w' (List.mem_cons_of_mem w hw')]

/-! ## Numerals -/

/-- The value of a digit. -/
def digit? (base : ℕ) (c : Char) : Option ℕ :=
  let n :=
    if '0' ≤ c ∧ c ≤ '9' then c.toNat - '0'.toNat
    else if 'a' ≤ c ∧ c ≤ 'f' then c.toNat - 'a'.toNat + 10
    else if 'A' ≤ c ∧ c ≤ 'F' then c.toNat - 'A'.toNat + 10
    else base
  if n < base then some n else none

/-- A numeral; nothing else may stand in the text. -/
def number? (base : ℕ) (text : List Char) : Option ℕ :=
  if text = [] then none
  else text.foldlM (fun n c => (digit? base c).map (n * base + ·)) 0

/-- The numeral that a text starts with; 0 if there is none. -/
def leadingNumber (base : ℕ) (text : List Char) : ℕ :=
  (text.takeWhile fun c => (digit? base c).isSome).foldl
    (fun n c => n * base + (digit? base c).getD 0) 0

/-- The text behind `0x`, if a hexadecimal digit follows. -/
def dropHexPrefix : List Char → List Char
  | '0' :: x :: c :: text =>
      if (x = 'x' ∨ x = 'X') ∧ (digit? 16 c).isSome then c :: text else '0' :: x :: c :: text
  | text => text

/-- `strtol` with a 32-bit `long` and no end pointer. -/
def strtol (base : ℕ) (text : List Char) : ℤ :=
  let text := text.dropWhile fun c => c.isWhitespace
  let magnitude (text : List Char) : ℤ :=
    leadingNumber base (if base = 16 then dropHexPrefix text else text)
  let n :=
    match text with
    | '-' :: text => -magnitude text
    | '+' :: text => magnitude text
    | text => magnitude text
  if n < -2147483648 then -2147483648 else if 2147483647 < n then 2147483647 else n

/-- The characters that `strtol` looks for before a numeral are no digits. -/
lemma not_digit_of_mark {c : Char} (h : (digit? 16 c).isSome) :
    c.isWhitespace = false ∧ c ≠ '-' ∧ c ≠ '+' ∧ c ≠ 'x' ∧ c ≠ 'X' := by
  refine ⟨?_, ?_, ?_, ?_, ?_⟩
  · by_contra hspace
    simp only [Char.isWhitespace, Bool.not_eq_false, Bool.or_eq_true, decide_eq_true_eq] at hspace
    rcases hspace with ((rfl | rfl) | rfl) | rfl <;> exact absurd h (by decide)
  · rintro rfl
    exact absurd h (by decide)
  · rintro rfl
    exact absurd h (by decide)
  · rintro rfl
    exact absurd h (by decide)
  · rintro rfl
    exact absurd h (by decide)

/-- A numeral has nothing but digits, and the value that its digits add up to. -/
lemma foldlM_digit? {base : ℕ} {text : List Char} {m n : ℕ}
    (h : text.foldlM (fun n c => (digit? base c).map (n * base + ·)) m = some n) :
    (∀ c ∈ text, (digit? base c).isSome)
      ∧ text.foldl (fun n c => n * base + (digit? base c).getD 0) m = n := by
  induction text generalizing m with
  | nil =>
      cases h
      exact ⟨fun c hc => absurd hc List.not_mem_nil, rfl⟩
  | cons c text ih =>
      rw [List.foldlM_cons] at h
      cases hc : digit? base c with
      | none =>
          rw [hc] at h
          cases h
      | some k =>
          rw [hc] at h
          obtain ⟨hdigits, hvalue⟩ := ih h
          refine ⟨List.forall_mem_cons.mpr ⟨by rw [hc]; rfl, hdigits⟩, ?_⟩
          rw [List.foldl_cons, hc]
          exact hvalue

/-- **`strtol` reads a hexadecimal numeral** as it is. -/
theorem strtol_of_number? {text : List Char} {n : ℕ} (h : number? 16 text = some n)
    (hn : n ≤ 2147483647) : strtol 16 text = n := by
  rw [number?] at h
  split at h
  · cases h
  · rename_i hne
    obtain ⟨hdigits, hvalue⟩ := foldlM_digit? h
    have htake : text.takeWhile (fun c => (digit? 16 c).isSome) = text :=
      List.takeWhile_eq_self_iff.mpr hdigits
    have hleading : leadingNumber 16 text = n := by
      rw [leadingNumber, htake]
      exact hvalue
    have hdropped : dropHexPrefix text = text := by
      unfold dropHexPrefix
      split
      · rename_i x c rest
        obtain ⟨-, -, -, hx, hX⟩ := not_digit_of_mark (hdigits x (by simp))
        rw [if_neg]
        rintro ⟨hmark, -⟩
        exact hmark.elim hx hX
      · rfl
    have hspace : text.dropWhile (fun c => c.isWhitespace) = text := by
      cases text with
      | nil => rfl
      | cons c rest =>
          have hc := (not_digit_of_mark (hdigits c List.mem_cons_self)).1
          exact List.dropWhile_cons_of_neg (by rw [hc]; decide)
    have hsign : ∀ rest, text ≠ '-' :: rest ∧ text ≠ '+' :: rest := by
      intro rest
      constructor
      · rintro rfl
        exact (not_digit_of_mark (hdigits '-' List.mem_cons_self)).2.1 rfl
      · rintro rfl
        exact (not_digit_of_mark (hdigits '+' List.mem_cons_self)).2.2.1 rfl
    unfold strtol
    simp only [hspace, if_true]
    split
    · exact absurd rfl (hsign _).1
    · exact absurd rfl (hsign _).2
    · rw [hdropped, hleading, if_neg (by omega), if_neg (by omega)]

/-! ## Bytes -/

/-- The two digits of a byte. -/
def hexByte (b : UInt8) : List Char := [Nat.digitChar (b.toNat / 16), Nat.digitChar (b.toNat % 16)]

/-- The digits of some bytes. -/
def toHex (bytes : List UInt8) : List Char := bytes.flatMap hexByte

/-- The bytes of an even number of digits. -/
def ofHex? : List Char → Option (List UInt8)
  | [] => some []
  | [_] => none
  | hi :: lo :: text =>
      match digit? 16 hi, digit? 16 lo, ofHex? text with
      | some hi, some lo, some bytes => some (UInt8.ofNat (hi * 16 + lo) :: bytes)
      | _, _, _ => none

@[simp] lemma toHex_nil : toHex [] = [] := rfl

@[simp] lemma toHex_cons (b : UInt8) (bytes : List UInt8) :
    toHex (b :: bytes) = hexByte b ++ toHex bytes := rfl

@[simp] lemma length_toHex (bytes : List UInt8) : (toHex bytes).length = 2 * bytes.length := by
  induction bytes with
  | nil => rfl
  | cons b bytes ih =>
      rw [toHex_cons, List.length_append, ih, List.length_cons]
      show 2 + 2 * bytes.length = 2 * (bytes.length + 1)
      omega

/-- A hexadecimal digit is read back. -/
lemma digit?_digitChar {n : ℕ} (h : n < 16) : digit? 16 (Nat.digitChar n) = some n := by
  have hall : ∀ n < 16, digit? 16 (Nat.digitChar n) = some n := by decide
  exact hall n h

/-- **What was written is read back.** -/
theorem ofHex?_toHex (bytes : List UInt8) : ofHex? (toHex bytes) = some bytes := by
  induction bytes with
  | nil => rfl
  | cons b bytes ih =>
      have hb := b.toNat_lt
      have hhi : digit? 16 (Nat.digitChar (b.toNat / 16)) = some (b.toNat / 16) :=
        digit?_digitChar (by omega)
      have hlo : digit? 16 (Nat.digitChar (b.toNat % 16)) = some (b.toNat % 16) :=
        digit?_digitChar (by omega)
      show (match digit? 16 (Nat.digitChar (b.toNat / 16)), digit? 16 (Nat.digitChar (b.toNat % 16)),
        ofHex? (toHex bytes) with
        | some hi, some lo, some bytes => some (UInt8.ofNat (hi * 16 + lo) :: bytes)
        | _, _, _ => none) = some (b :: bytes)
      have hsum : b.toNat / 16 * 16 + b.toNat % 16 = b.toNat := by omega
      rw [hhi, hlo, ih]
      dsimp only
      rw [hsum, UInt8.ofNat_toNat]

/-- Text that is read as bytes has two characters a byte. -/
lemma length_of_ofHex? {text : List Char} {bytes : List UInt8} (h : ofHex? text = some bytes) :
    text.length = 2 * bytes.length := by
  fun_induction ofHex? text generalizing bytes with
  | case1 =>
      cases h
      rfl
  | case2 c => cases h
  | case3 hi lo text hi' lo' bytes' hbytes hlo hhi ih =>
      cases h
      have hlen := ih hbytes
      simp only [List.length_cons]
      omega
  | case4 => cases h

/-- The bytes of any number of digits: an odd one has a zero in front. -/
def hexBytes? (text : List Char) : Option (List UInt8) :=
  ofHex? (if text.length % 2 = 0 then text else '0' :: text)

lemma hexBytes?_of_ofHex? {text : List Char} {bytes : List UInt8} (h : ofHex? text = some bytes) :
    hexBytes? text = some bytes := by
  have hlen := length_of_ofHex? h
  rw [hexBytes?, if_pos (by omega), h]

end Text
