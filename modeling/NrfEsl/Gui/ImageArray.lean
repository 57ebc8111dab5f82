import NrfEsl.Lib.PythonText

/-!
# Images as C arrays

The simulator of the panels converts image files both ways: `process_binary_to_array` writes the bytes
as a C array, sixteen in a row, and `process_c_array_to_binary` reads such an array.  The reader drops
comments, takes what stands between the first braces, and reads a byte from each cell between commas.
It accepts more than the writer emits; `none` stands for an exception.
-/

namespace NrfEsl

open Text PythonText

/-! ## Writing -/

/-- `f"0x{byte:02x}"` -/
def hexValue (byte : UInt8) : List Char := '0' :: 'x' :: hexByte byte

/-- A row of the array, with the comma behind it. -/
def arrayRow (hexValues : List (List Char)) : List Char :=
  [',', ' '].intercalate hexValues ++ [',', '\n']

/-- The rows from every sixteenth value on. -/
def arrayRows (rows : ℕ) (hexValues : List (List Char)) : List Char :=
  (List.range rows).flatMap fun i => arrayRow ((hexValues.drop (16 * i)).take 16)

/-- The declaration up to the number of bytes. -/
def arrayName : List Char := "const unsigned char gImage_1[".toList

/-- Between the number of bytes and the rows. -/
def arrayStart : List Char := "] = \x7b\n".toList

/-- Behind the rows. -/
def arrayEnd : List Char := "\x7d;".toList

/-- `c_array` -/
def cArray (byteArray : List UInt8) : List Char :=
  let hexValues := byteArray.map hexValue
  arrayName ++ Nat.toDigits 10 hexValues.length ++ arrayStart
    ++ arrayRows ((hexValues.length + 15) / 16) hexValues ++ arrayEnd

/-- `process_binary_to_array`: the file that it writes. -/
def processBinaryToArray (sep : Linesep) (byteArray : List UInt8) : List Char :=
  writeText sep (cArray byteArray)

/-! ## Reading -/

/-- What a line adds to `cleaned_lines`. -/
def cleanLine (line : List Char) : List Char :=
  let commentStart := find ['/', '/'] line 0
  if commentStart ≠ -1 then
    if 0 < commentStart then slice line 0 commentStart else []
  else line

/-- What stands between the braces. -/
def arrayContent (content : List Char) : List Char :=
  let start := find ['\x7b'] content 0 + 1
  slice content start (find ['\x7d'] content start.toNat)

/-- `process_c_array_to_binary`: the bytes that it writes. -/
def processCArrayToBinary (u : Unicode) (file : List Char) : Option (List UInt8) :=
  let content := (readlines (readText file)).flatMap cleanLine
  let hexValues := (arrayContent content).splitOn ','
  let values := (hexValues.map (strip u)).filter (!·.isEmpty)
  (values.mapM (int? u 16)).bind bytes?

end NrfEsl
