import NrfEsl.Common
import NrfEsl.Gui.ImageArray

/-!
# Conversion of image files

The array that is written for an image is read back as the same image, on every platform and for
every number of bytes.

* The text has no comment and one pair of braces (`cleanLines_of_plain`, `arrayContent_append`).
* Its cells are the literals of the bytes: a row of sixteen after the other (`cells_arrayRows`), where
  each line feed is a blank in front of the next row, and the last one is no cell.
* Each literal is read as its byte (`int?_hexValue`).
-/

namespace NrfEsl

open Text PythonText

variable {u : Unicode}

/-! ## The characters -/

/-- A character of the rows, or of the number of bytes. -/
def IsArrayChar (c : Char) : Prop := (digit? 16 c).isSome ∨ c = 'x' ∨ c = ',' ∨ c = ' ' ∨ c = '\n'

lemma IsArrayChar.ne {c : Char} (h : IsArrayChar c) :
    c ≠ '/' ∧ c ≠ '\r' ∧ c ≠ '\x7b' ∧ c ≠ '\x7d' := by
  rcases h with h | rfl | rfl | rfl | rfl
  · refine ⟨?_, ?_, ?_, ?_⟩ <;>
    · rintro rfl
      exact absurd h (by decide)
  · decide
  · decide
  · decide
  · decide

/-- The digits of a literal. -/
lemma number?_hexByte (b : UInt8) : number? 16 (hexByte b) = some b.toNat :=
  forall_uint8 (P := fun b => number? 16 (hexByte b) = some b.toNat) (by decide +kernel) b

lemma isSome_digit_of_mem_hexByte {b : UInt8} {c : Char} (hc : c ∈ hexByte b) :
    (digit? 16 c).isSome := by
  have h := number?_hexByte b
  have hne : hexByte b ≠ [] := List.cons_ne_nil _ _
  rw [number?, if_neg hne] at h
  exact (foldlM_digit? h).1 c hc

lemma isArrayChar_of_mem_hexValue {b : UInt8} {c : Char} (hc : c ∈ hexValue b) : IsArrayChar c := by
  rcases List.mem_cons.mp hc with rfl | hc
  · exact .inl (by decide)
  rcases List.mem_cons.mp hc with rfl | hc
  · exact .inr (.inl rfl)
  · exact .inl (isSome_digit_of_mem_hexByte hc)

/-- A literal is a word without a comma. -/
lemma isWord_hexValue (b : UInt8) : ',' ∉ hexValue b ∧ IsWord u (hexValue b) := by
  have hblank : ∀ c ∈ hexByte b, c ≠ ',' ∧ u.isBlank c = false := by
    intro c hc
    have hdigit := isSome_digit_of_mem_hexByte hc
    refine ⟨?_, (ascii_of_digit hdigit).2.2⟩
    rintro rfl
    exact absurd hdigit (by decide)
  refine ⟨?_, List.cons_ne_nil _ _, ?_⟩
  · intro hmem
    simp only [hexValue, List.mem_cons] at hmem
    rcases hmem with h | h | h
    · exact absurd h (by decide)
    · exact absurd h (by decide)
    · exact (hblank ',' h).1 rfl
  · intro c hc
    simp only [hexValue, List.mem_cons] at hc
    rcases hc with rfl | rfl | hc
    · rfl
    · rfl
    · exact (hblank c hc).2

/-- **A literal is read as its byte.** -/
lemma int?_hexValue (b : UInt8) : int? u 16 (hexValue b) = some (b.toNat : ℤ) :=
  int?_hex (number?_hexByte b)

/-! ## The rows -/

/-- The first row, and those behind it. -/
lemma arrayRows_succ (rows : ℕ) (hexValues : List (List Char)) :
    arrayRows (rows + 1) hexValues
      = arrayRow (hexValues.take 16) ++ arrayRows rows (hexValues.drop 16) := by
  rw [arrayRows, List.range_succ_eq_map, List.flatMap_cons, List.flatMap_map, Nat.mul_zero,
    List.drop_zero, arrayRows]
  congr 1
  refine List.flatMap_congr fun i _ => ?_
  rw [List.drop_drop, Nat.succ_eq_add_one, Nat.mul_add, Nat.add_comm]

/-- **The cells of the rows** are the literals; the line feed behind a row is a blank in front of the
next one. -/
lemma cells_arrayRows (rows : ℕ) {hexValues : List (List Char)}
    (hrows : rows = (hexValues.length + 15) / 16)
    (hwords : ∀ w ∈ hexValues, ',' ∉ w ∧ IsWord u w) :
    cells u ',' ('\n' :: arrayRows rows hexValues) = hexValues := by
  have hfeed : ∀ c ∈ ['\n'], u.isBlank c := by
    intro c hc
    rw [List.mem_singleton.mp hc]
    rfl
  induction rows generalizing hexValues with
  | zero =>
      have hnil : hexValues = [] := List.eq_nil_of_length_eq_zero (by omega)
      rw [hnil]
      exact cells_of_blank (by decide) hfeed
  | succ rows ih =>
      have hne : hexValues.take 16 ≠ [] := by
        intro hnil
        have hlen := congrArg List.length hnil
        rw [List.length_take, List.length_nil] at hlen
        omega
      have htext : '\n' :: arrayRows (rows + 1) hexValues
          = ['\n'] ++ [',', ' '].intercalate (hexValues.take 16)
            ++ ',' :: ('\n' :: arrayRows rows (hexValues.drop 16)) := by
        rw [arrayRows_succ, arrayRow]
        simp only [List.append_assoc, List.cons_append, List.nil_append]
      have hblank : ∀ c ∈ [' '], u.isBlank c := by
        intro c hc
        rw [List.mem_singleton.mp hc]
        rfl
      have hrest : cells u ',' ('\n' :: arrayRows rows (hexValues.drop 16)) = hexValues.drop 16 :=
        ih (by rw [List.length_drop]; omega) fun w hw => hwords w (List.mem_of_mem_drop hw)
      rw [htext, cells_intercalate_append (by decide) hblank
        (fun w hw => (hwords w (List.mem_of_mem_take hw)).1)
        (fun w hw => (hwords w (List.mem_of_mem_take hw)).2) hne (by decide) hfeed, hrest,
        List.take_append_drop]

/-! ## The text -/

/-- A line without a comment is kept. -/
lemma cleanLine_of_plain {line : List Char} (h : '/' ∉ line) : cleanLine line = line := by
  rw [cleanLine, find_of_notMem h]
  rfl

/-- A text without comments is kept. -/
lemma cleanLines_of_plain {text : List Char} (h : '/' ∉ text) :
    (readlines text).flatMap cleanLine = text := by
  have hlines : (readlines text).flatMap cleanLine = (readlines text).flatMap id :=
    List.flatMap_congr fun line hline =>
      cleanLine_of_plain fun hmem => h (mem_of_mem_readlines hline hmem)
  rw [hlines, List.flatMap_id, flatten_readlines]

/-- **What stands between the braces** is found. -/
lemma arrayContent_append {front middle : List Char} (hfront : '\x7b' ∉ front)
    (hmiddle : '\x7d' ∉ middle) (back : List Char) :
    arrayContent (front ++ '\x7b' :: (middle ++ '\x7d' :: back)) = middle := by
  have hopen : find ['\x7b'] (front ++ '\x7b' :: (middle ++ '\x7d' :: back)) 0 = front.length := by
    have h := find_append hfront [] (middle ++ '\x7d' :: back)
    rw [List.length_nil, Nat.zero_add] at h
    exact h
  have hstart : ((front.length : ℤ) + 1) = ((front ++ ['\x7b']).length : ℤ) := by
    rw [List.length_append]
    rfl
  have htext : front ++ '\x7b' :: (middle ++ '\x7d' :: back)
      = (front ++ ['\x7b']) ++ (middle ++ '\x7d' :: back) := by
    rw [List.append_assoc, List.singleton_append]
  rw [arrayContent]
  simp only [hopen]
  rw [hstart, htext, Int.toNat_natCast, find_append hmiddle, slice_between]

/-- The text in front of the braces. -/
def declaration (n : ℕ) : List Char := arrayName ++ Nat.toDigits 10 n ++ [']', ' ', '=', ' ']

lemma cArray_eq (byteArray : List UInt8) :
    cArray byteArray = declaration byteArray.length ++ '\x7b' ::
      ('\n' :: arrayRows ((byteArray.length + 15) / 16) (byteArray.map hexValue) ++ '\x7d' :: [';']) := by
  have hstart : arrayStart = [']', ' ', '=', ' '] ++ ['\x7b', '\n'] := by decide +kernel
  have hend : arrayEnd = ['\x7d', ';'] := by decide +kernel
  simp only [cArray, declaration, hstart, hend, List.length_map, List.append_assoc, List.cons_append,
    List.nil_append]

lemma ne_of_mem_declaration {n : ℕ} {c : Char} (hc : c ∈ declaration n) :
    c ≠ '/' ∧ c ≠ '\r' ∧ c ≠ '\x7b' := by
  have hname : (arrayName.all fun c => c != '/' && c != '\r' && c != '\x7b') = true := by
    decide +kernel
  rw [declaration, List.mem_append, List.mem_append] at hc
  rcases hc with (hc | hc) | hc
  · have hne := List.all_eq_true.mp hname c hc
    rw [Bool.and_eq_true, Bool.and_eq_true, bne_iff_ne, bne_iff_ne, bne_iff_ne] at hne
    exact ⟨hne.1.1, hne.1.2, hne.2⟩
  · have hdigit := Nat.isDigit_of_mem_toDigits (by decide) (Nat.le_refl 10) hc
    refine ⟨?_, ?_, ?_⟩ <;>
    · rintro rfl
      exact absurd hdigit (by decide)
  · simp only [List.mem_cons, List.not_mem_nil, or_false] at hc
    rcases hc with rfl | rfl | rfl | rfl <;> decide

lemma isArrayChar_of_mem_arrayRows {rows : ℕ} {byteArray : List UInt8} {c : Char}
    (hc : c ∈ arrayRows rows (byteArray.map hexValue)) : IsArrayChar c := by
  obtain ⟨i, -, hrow⟩ := List.mem_flatMap.mp hc
  rw [arrayRow, List.mem_append] at hrow
  rcases hrow with hrow | hrow
  · rcases mem_intercalate hrow with hsep | ⟨w, hw, hc⟩
    · simp only [List.mem_cons, List.not_mem_nil, or_false] at hsep
      rcases hsep with rfl | rfl
      · exact .inr (.inr (.inl rfl))
      · exact .inr (.inr (.inr (.inl rfl)))
    · obtain ⟨b, -, rfl⟩ := List.mem_map.mp (List.mem_of_mem_drop (List.mem_of_mem_take hw))
      exact isArrayChar_of_mem_hexValue hc
  · simp only [List.mem_cons, List.not_mem_nil, or_false] at hrow
    rcases hrow with rfl | rfl
    · exact .inr (.inr (.inl rfl))
    · exact .inr (.inr (.inr (.inr rfl)))

/-! ## The round trip -/

/-- **The array that is written is read back.** -/
theorem process_c_array_to_binary_to_array (u : Unicode) (sep : Linesep) (byteArray : List UInt8) :
    processCArrayToBinary u (processBinaryToArray sep byteArray) = some byteArray := by
  have hrow : ∀ c ∈ '\n' :: arrayRows ((byteArray.length + 15) / 16) (byteArray.map hexValue),
      c ≠ '/' ∧ c ≠ '\r' ∧ c ≠ '\x7b' ∧ c ≠ '\x7d' := by
    intro c hc
    rcases List.mem_cons.mp hc with rfl | hc
    · decide
    · exact (isArrayChar_of_mem_arrayRows hc).ne
  have hplain : ∀ c ∈ cArray byteArray, c ≠ '/' ∧ c ≠ '\r' := by
    intro c hc
    rw [cArray_eq, List.mem_append, List.mem_cons, List.mem_append] at hc
    rcases hc with hc | rfl | hc | hc
    · exact ⟨(ne_of_mem_declaration hc).1, (ne_of_mem_declaration hc).2.1⟩
    · decide
    · exact ⟨(hrow c hc).1, (hrow c hc).2.1⟩
    · simp only [List.mem_cons, List.not_mem_nil, or_false] at hc
      rcases hc with rfl | rfl
      · decide
      · decide
  have hwords : ∀ w ∈ byteArray.map hexValue, ',' ∉ w ∧ IsWord u w := by
    intro w hw
    obtain ⟨b, -, rfl⟩ := List.mem_map.mp hw
    exact isWord_hexValue b
  have hcells := cells_arrayRows ((byteArray.length + 15) / 16) (by rw [List.length_map]) hwords
  have hvalues : (byteArray.map hexValue).mapM (int? u 16)
      = some (byteArray.map fun b => (b.toNat : ℤ)) := by
    have hread : int? u 16 ∘ hexValue = fun b => pure (b.toNat : ℤ) := funext int?_hexValue
    rw [List.mapM_map, hread, List.mapM_pure]
    rfl
  rw [processCArrayToBinary, processBinaryToArray,
    readText_writeText sep fun hmem => (hplain _ hmem).2 rfl]
  simp only [cleanLines_of_plain fun hmem => (hplain _ hmem).1 rfl]
  rw [cArray_eq, arrayContent_append (fun hmem => (ne_of_mem_declaration hmem).2.2 rfl)
    fun hmem => (hrow _ hmem).2.2.2 rfl]
  rw [cells] at hcells
  rw [hcells, hvalues, Option.bind_some, bytes?_toNat]

end NrfEsl
