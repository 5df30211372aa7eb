import DirectorySearch.Text.Hex
import DirectorySearch.Text.Utf8

/-!
# Percent encoding

A byte that cannot stand for itself is written as a percent sign and two hexadecimal digits.  Which
ones can depends on the place.

* `percentByte` — the three characters of a byte.
* **`percentEncode`** — a text whose characters are kept or written byte by byte.
* `percentDecode` — the bytes of a text with such sequences; a percent sign without two digits stands
  for itself.
* `formEncode` — a text inside a form field, where a space becomes a plus.
-/

namespace DirectorySearch

/-- A byte as a percent sign and two digits. -/
def percentByte (b : UInt8) : List Char :=
  ['%', upperHexDigit (b.toNat / 16), upperHexDigit b.toNat]

/-- A character written byte by byte. -/
def percentChar (c : Char) : List Char := (String.utf8EncodeChar c).flatMap percentByte

/-- **A text with all characters but the kept ones written byte by byte.** -/
def percentEncode (keep : Char → Bool) (text : List Char) : List Char :=
  text.flatMap fun c => if keep c then [c] else percentChar c

/-- The bytes of a text with percent sequences. -/
def percentDecode : List Char → List UInt8
  | '%' :: a :: b :: rest =>
    match hexValue? a, hexValue? b with
    | some x, some y => (x * 16 + y).toUInt8 :: percentDecode rest
    | _, _ => '%'.toUInt8 :: percentDecode (a :: b :: rest)
  | c :: rest => String.utf8EncodeChar c ++ percentDecode rest
  | [] => []
termination_by text => text.length

/-- The characters that stand for themselves in a form field. -/
def isFormSafe (c : Char) : Bool := c.isAlphanum || c = '*' || c = '-' || c = '.' || c = '_'

/-- A text inside a form field. -/
def formEncode (text : List Char) : List Char :=
  text.flatMap fun c => if isFormSafe c then [c] else if c = ' ' then ['+'] else percentChar c

/-- The fields of a form, each a name and a value. -/
def formFields (pairs : List (String × String)) : List (List Char) :=
  pairs.map fun pair => formEncode pair.1.toList ++ '=' :: formEncode pair.2.toList

end DirectorySearch
