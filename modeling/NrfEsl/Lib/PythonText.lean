import Mathlib.Data.Int.Notation
import Mathlib.Data.List.DropRight
import NrfEsl.Lib.Text

/-!
# Text in Python

The functions of the Python library that a script reads a text file with, on lists of characters.

* `writeText`, `readText`, `readlines` — a text file, with the line separator of the platform, and
  its lines.
* `find`, `slice`, `strip` — as the methods of `str`.
* `int?` — `int(text, base)`; `none` stands for a `ValueError`.
* `cells` — what stands between separators, without blanks around it and without empty cells.

**Reading back.**  `readText_writeText`, for a file; `cells_word_append`, for one cell; `slice_between`,
for what stands between two marks.
-/

namespace PythonText

open Text

/-- What the library knows about the characters that are not ASCII. -/
structure Unicode where
  isSpace : Char → Bool
  decimal? : Char → Option (Fin 10)

/-! ## Files -/

/-- `os.linesep` -/
inductive Linesep
  | lf
  | crlf
  deriving DecidableEq, Repr

def Linesep.text : Linesep → List Char
  | .lf => ['\n']
  | .crlf => ['\r', '\n']

/-- What a text file holds after `write`. -/
def writeText (sep : Linesep) (text : List Char) : List Char :=
  text.flatMap fun c => if c = '\n' then sep.text else [c]

/-- What is read from a text file: every line ends with a line feed. -/
def readText : List Char → List Char
  | '\r' :: '\n' :: text => '\n' :: readText text
  | '\r' :: text => '\n' :: readText text
  | c :: text => c :: readText text
  | [] => []

/-- The lines, with their line feeds. -/
def readlines : List Char → List (List Char)
  | [] => []
  | c :: text =>
      if c = '\n' then [c] :: readlines text
      else
        match readlines text with
        | [] => [[c]]
        | line :: lines => (c :: line) :: lines

lemma readText_cons {c : Char} (h : c ≠ '\r') (text : List Char) :
    readText (c :: text) = c :: readText text := by
  rw [readText]
  · rintro rest rfl
    exact absurd rfl h
  · rintro rfl
    exact absurd rfl h

/-- **A file is read as it was written**, on every platform. -/
theorem readText_writeText (sep : Linesep) {text : List Char} (h : '\r' ∉ text) :
    readText (writeText sep text) = text := by
  induction text with
  | nil => rfl
  | cons c text ih =>
      rw [List.mem_cons, not_or] at h
      have hrest := ih h.2
      show readText ((if c = '\n' then sep.text else [c]) ++ writeText sep text) = c :: text
      split
      · rename_i hc
        cases sep with
        | lf =>
            show readText ('\n' :: writeText .lf text) = c :: text
            rw [readText_cons (by decide), hrest, hc]
        | crlf =>
            show readText ('\r' :: '\n' :: writeText .crlf text) = c :: text
            rw [readText, hrest, hc]
      · rw [List.singleton_append, readText_cons (Ne.symm h.1), hrest]

/-- The lines are the text. -/
lemma flatten_readlines (text : List Char) : (readlines text).flatten = text := by
  induction text with
  | nil => rfl
  | cons c text ih =>
      rw [readlines]
      split
      · rw [List.flatten_cons, ih, List.singleton_append]
      · split
        · rename_i hlines
          rw [hlines] at ih
          rw [← ih]
          rfl
        · rename_i line lines hlines
          rw [hlines, List.flatten_cons] at ih
          rw [List.flatten_cons, List.cons_append, ih]

lemma mem_of_mem_readlines {text line : List Char} {c : Char} (hline : line ∈ readlines text)
    (hc : c ∈ line) : c ∈ text := by
  rw [← flatten_readlines text]
  exact List.mem_flatten.mpr ⟨line, hline, hc⟩

/-! ## Finding and slicing -/

/-- The index of the first occurrence. -/
def find? (sub : List Char) : List Char → Option ℕ
  | [] => if sub = [] then some 0 else none
  | c :: text => if sub.isPrefixOf (c :: text) then some 0 else (find? sub text).map (· + 1)

/-- `text.find(sub, start)` -/
def find (sub text : List Char) (start : ℕ) : ℤ :=
  match find? sub (text.drop start) with
  | some i => start + i
  | none => -1

/-- An index from the front, or, if it is negative, from the end. -/
def sliceIndex (text : List Char) (i : ℤ) : ℕ := if i < 0 then (text.length + i).toNat else i.toNat

/-- `text[start:stop]` -/
def slice (text : List Char) (start stop : ℤ) : List Char :=
  (text.take (sliceIndex text stop)).drop (sliceIndex text start)

lemma find?_of_notMem {c : Char} {text : List Char} (h : c ∉ text) (sub : List Char) :
    find? (c :: sub) text = none := by
  induction text with
  | nil => rfl
  | cons d text ih =>
      rw [List.mem_cons, not_or] at h
      have hprefix : (c :: sub).isPrefixOf (d :: text) = false := by
        rw [List.isPrefixOf, beq_eq_false_iff_ne.mpr h.1, Bool.false_and]
      rw [find?, hprefix, ih h.2]
      rfl

/-- A text that does not have the first character. -/
lemma find_of_notMem {c : Char} {text : List Char} (h : c ∉ text) (sub : List Char) :
    find (c :: sub) text 0 = -1 := by
  rw [find, List.drop_zero, find?_of_notMem h]

lemma find?_append {c : Char} {front : List Char} (h : c ∉ front) (back : List Char) :
    find? [c] (front ++ c :: back) = some front.length := by
  induction front with
  | nil =>
      show (if [c].isPrefixOf (c :: back) then some 0 else _) = some 0
      rw [if_pos]
      rw [List.isPrefixOf, beq_self_eq_true, List.isPrefixOf, Bool.and_self]
  | cons d front ih =>
      rw [List.mem_cons, not_or] at h
      have hprefix : [c].isPrefixOf (d :: (front ++ c :: back)) = false := by
        rw [List.isPrefixOf, beq_eq_false_iff_ne.mpr h.1, Bool.false_and]
      rw [List.cons_append, find?, hprefix, ih h.2]
      rfl

/-- The first occurrence of a character from `start` on. -/
lemma find_append {c : Char} {front : List Char} (h : c ∉ front) (before back : List Char) :
    find [c] (before ++ (front ++ c :: back)) before.length
      = ((before.length + front.length : ℕ) : ℤ) := by
  rw [find, List.drop_left, find?_append h]
  exact (Int.natCast_add _ _).symm

/-- **What stands between** two positions. -/
lemma slice_between (before middle after : List Char) :
    slice (before ++ (middle ++ after)) before.length ((before.length + middle.length : ℕ) : ℤ)
      = middle := by
  have hindex : ∀ n : ℕ, sliceIndex (before ++ (middle ++ after)) (n : ℤ) = n := fun n => rfl
  rw [slice, hindex, hindex, ← List.append_assoc, ← List.length_append, List.take_left,
    List.drop_left]

/-! ## Blanks -/

/-- `str.isspace`, for a character. -/
def Unicode.isBlank (u : Unicode) (c : Char) : Bool :=
  if c.toNat < 128 then (9 ≤ c.toNat && c.toNat ≤ 13) || (28 ≤ c.toNat && c.toNat ≤ 32)
  else u.isSpace c

/-- `text.strip()` -/
def strip (u : Unicode) (text : List Char) : List Char := (text.dropWhile u.isBlank).rdropWhile u.isBlank

/-- A word has a character and no blank. -/
def IsWord (u : Unicode) (w : List Char) : Prop := w ≠ [] ∧ ∀ c ∈ w, u.isBlank c = false

variable {u : Unicode}

lemma strip_of_blank {blank : List Char} (h : ∀ c ∈ blank, u.isBlank c) : strip u blank = [] := by
  rw [strip, List.dropWhile_eq_nil_iff.mpr h, List.rdropWhile_nil]

lemma strip_blank_append {blank w : List Char} (h : ∀ c ∈ blank, u.isBlank c) (hw : IsWord u w) :
    strip u (blank ++ w) = w := by
  have hfront : (blank ++ w).dropWhile u.isBlank = w := by
    rw [List.dropWhile_append_of_pos h]
    cases w with
    | nil => rfl
    | cons c w =>
        exact List.dropWhile_cons_of_neg (by rw [hw.2 c List.mem_cons_self]; decide)
  rw [strip, hfront]
  refine List.rdropWhile_eq_self_iff.mpr fun hne => ?_
  rw [hw.2 _ (List.getLast_mem hne)]
  decide

/-! ## Cells -/

/-- What stands between separators, blanks apart. -/
def cells (u : Unicode) (sep : Char) (text : List Char) : List (List Char) :=
  ((text.splitOn sep).map (strip u)).filter (!·.isEmpty)

lemma cells_append_sep (sep : Char) (cs text : List Char) :
    cells u sep (cs ++ sep :: text) = cells u sep cs ++ cells u sep text := by
  rw [cells, List.splitOn_append_cons_self, List.map_append, List.filter_append]
  rfl

lemma cells_of_blank {sep : Char} {blank : List Char} (hsep : sep ∉ blank)
    (h : ∀ c ∈ blank, u.isBlank c) : cells u sep blank = [] := by
  rw [cells, List.splitOn_eq_singleton hsep, List.map_singleton, strip_of_blank h]
  rfl

/-- **The first cell of a text**: a word, with blanks in front of it. -/
lemma cells_word_append {sep : Char} {blank w : List Char} (hblank : sep ∉ blank)
    (h : ∀ c ∈ blank, u.isBlank c) (hsep : sep ∉ w) (hw : IsWord u w) (text : List Char) :
    cells u sep (blank ++ w ++ sep :: text) = w :: cells u sep text := by
  have hnot : sep ∉ blank ++ w := by
    rw [List.mem_append]
    exact fun hmem => hmem.elim hblank hsep
  have hempty : w.isEmpty = false := List.isEmpty_eq_false_iff.mpr hw.1
  have hfirst : cells u sep (blank ++ w) = [w] := by
    rw [cells, List.splitOn_eq_singleton hnot, List.map_singleton, strip_blank_append h hw,
      List.filter_cons, hempty]
    rfl
  rw [cells_append_sep, hfirst, List.singleton_append]

/-- What is joined has the characters of its parts, and those of the separator. -/
lemma mem_intercalate {between : List Char} {ws : List (List Char)} {c : Char}
    (h : c ∈ between.intercalate ws) : c ∈ between ∨ ∃ w ∈ ws, c ∈ w := by
  induction ws with
  | nil =>
      rw [List.intercalate_nil] at h
      exact absurd h List.not_mem_nil
  | cons w ws ih =>
      cases ws with
      | nil =>
          rw [List.intercalate_singleton] at h
          exact .inr ⟨w, List.mem_cons_self, h⟩
      | cons w' ws =>
          rw [List.intercalate_cons_cons, List.mem_append, List.mem_append] at h
          rcases h with (h | h) | h
          · exact .inr ⟨w, List.mem_cons_self, h⟩
          · exact .inl h
          · rcases ih h with h | ⟨v, hv, hc⟩
            · exact .inl h
            · exact .inr ⟨v, List.mem_cons_of_mem w hv, hc⟩

/-- The cells of a row of words: each separator but the last has blanks behind it. -/
lemma cells_intercalate_append {sep : Char} {blank : List Char} (hblank : sep ∉ blank)
    (h : ∀ c ∈ blank, u.isBlank c) {ws : List (List Char)} (hsep : ∀ w ∈ ws, sep ∉ w)
    (hws : ∀ w ∈ ws, IsWord u w) (hne : ws ≠ []) {front : List Char} (hfront : sep ∉ front)
    (h' : ∀ c ∈ front, u.isBlank c) (text : List Char) :
    cells u sep (front ++ (sep :: blank).intercalate ws ++ sep :: text)
      = ws ++ cells u sep text := by
  induction ws generalizing front with
  | nil => exact absurd rfl hne
  | cons w ws ih =>
      have hfirst := cells_word_append hfront h' (hsep w List.mem_cons_self) (hws w List.mem_cons_self)
      cases ws with
      | nil =>
          rw [List.intercalate_singleton]
          exact hfirst text
      | cons w' ws =>
          have hrow : front ++ (sep :: blank).intercalate (w :: w' :: ws) ++ sep :: text
              = front ++ w ++ sep :: (blank ++ (sep :: blank).intercalate (w' :: ws) ++ sep :: text) := by
            rw [List.intercalate_cons_cons]
            simp only [List.append_assoc, List.cons_append]
          rw [hrow, hfirst, ih (fun v hv => hsep v (List.mem_cons_of_mem w hv))
            (fun v hv => hws v (List.mem_cons_of_mem w hv)) (List.cons_ne_nil _ _) hblank h]
          rfl

/-! ## Numerals -/

/-- The ASCII character that `int` takes a character for. -/
def Unicode.toAscii (u : Unicode) (c : Char) : Char :=
  if c.toNat < 128 then c
  else
    match u.decimal? c with
    | some d => Nat.digitChar d
    | none => '?'

/-- The text behind `0x`; an underscore may follow. -/
def dropHexMark : List Char → List Char
  | '0' :: x :: text =>
      if x = 'x' ∨ x = 'X' then
        match text with
        | '_' :: text => text
        | text => text
      else '0' :: x :: text
  | text => text

/-- A numeral without a sign.  Single underscores may stand between the digits. -/
def magnitude? (base : ℕ) (text : List Char) : Option ℕ :=
  let text := if base = 16 then dropHexMark text else text
  if [] ∈ text.splitOn '_' then none else number? base (text.filter (· ≠ '_'))

/-- `int(text, base)` of a text without blanks around it. -/
def int? (u : Unicode) (base : ℕ) (text : List Char) : Option ℤ :=
  match text.map u.toAscii with
  | '-' :: text => (magnitude? base text).map fun n : ℕ => -(n : ℤ)
  | '+' :: text => (magnitude? base text).map fun n : ℕ => (n : ℤ)
  | text => (magnitude? base text).map fun n : ℕ => (n : ℤ)

/-- A hexadecimal digit is an ASCII character. -/
lemma ascii_of_digit {c : Char} (h : (digit? 16 c).isSome) :
    c.toNat < 128 ∧ c ≠ '_' ∧ u.isBlank c = false := by
  have hrange : 48 ≤ c.toNat ∧ c.toNat ≤ 102 ∧ c.toNat ≠ 95 := by
    simp only [digit?, Char.le_def, UInt32.le_iff_toNat_le] at h
    show 48 ≤ c.val.toNat ∧ c.val.toNat ≤ 102 ∧ c.val.toNat ≠ 95
    split_ifs at h <;> grind
  refine ⟨by omega, ?_, ?_⟩
  · rintro rfl
    exact absurd rfl hrange.2.2
  · rw [Unicode.isBlank, if_pos (by omega)]
    simp only [Bool.or_eq_false_iff, Bool.and_eq_false_iff, decide_eq_false_iff_not]
    omega

/-- **A hexadecimal literal** is read as the numeral behind its mark. -/
theorem int?_hex {digits : List Char} {n : ℕ} (h : number? 16 digits = some n) :
    int? u 16 ('0' :: 'x' :: digits) = some (n : ℤ) := by
  have hne : digits ≠ [] := by
    rintro rfl
    cases h
  have hdigits : ∀ c ∈ digits, (digit? 16 c).isSome := by
    rw [number?, if_neg hne] at h
    exact (foldlM_digit? h).1
  have hmark : '_' ∉ digits := fun hmem => (ascii_of_digit (u := u) (hdigits _ hmem)).2.1 rfl
  have hascii : digits.map u.toAscii = digits := by
    refine (List.map_congr_left fun c hc => ?_).trans (List.map_id digits)
    rw [Unicode.toAscii, if_pos (ascii_of_digit (u := u) (hdigits c hc)).1, id]
  have hdrop : dropHexMark ('0' :: 'x' :: digits) = digits := by
    cases digits with
    | nil => exact absurd rfl hne
    | cons c digits =>
        rw [dropHexMark, if_pos (.inl rfl)]
        rintro text htext
        rw [htext] at hmark
        exact hmark List.mem_cons_self
  have hmagnitude : magnitude? 16 ('0' :: 'x' :: digits) = some n := by
    rw [magnitude?]
    simp only [if_true, hdrop]
    rw [List.splitOn_eq_singleton hmark, if_neg (by simpa using hne.symm), List.filter_eq_self.mpr, h]
    intro c hc
    simpa using (ascii_of_digit (u := u) (hdigits c hc)).2.1
  have htext : ('0' :: 'x' :: digits).map u.toAscii = '0' :: 'x' :: digits := by
    rw [List.map_cons, List.map_cons, hascii]
    rfl
  rw [int?, htext]
  show (magnitude? 16 ('0' :: 'x' :: digits)).map (fun n : ℕ => (n : ℤ)) = some (n : ℤ)
  rw [hmagnitude, Option.map_some]

/-- `bytes(ns)` -/
def bytes? (ns : List ℤ) : Option (List UInt8) :=
  ns.mapM fun n => if 0 ≤ n ∧ n < 256 then some (UInt8.ofInt n) else none

lemma bytes?_toNat (bytes : List UInt8) : bytes? (bytes.map fun b => (b.toNat : ℤ)) = some bytes := by
  induction bytes with
  | nil => rfl
  | cons b bytes ih =>
      have hb : (0 : ℤ) ≤ b.toNat ∧ (b.toNat : ℤ) < 256 := by
        have hlt := b.toNat_lt
        omega
      have hbyte : UInt8.ofInt (b.toNat : ℤ) = b := by
        have hmod : (b.toNat : ℤ) % 2 ^ 8 = b.toNat := Int.emod_eq_of_lt hb.1 hb.2
        rw [UInt8.ofInt, hmod, Int.toNat_natCast, UInt8.ofNat_toNat]
      rw [bytes?] at ih
      rw [bytes?, List.map_cons, List.mapM_cons, if_pos hb, ih, hbyte]
      rfl

end PythonText
