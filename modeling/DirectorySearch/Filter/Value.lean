import DirectorySearch.Json.Basic

/-!
# The values of a filter

What an attribute is compared with is written into the filter as a literal.  Truth values and numbers
stand bare, a string stands in quotes with its quotes escaped, and raw text stands as it is.

* `FilterValue` — the values.
* **`FilterValue.literal`** — the literal of a value.

A double that is no number has no bare form; it is written as the string that names it.
-/

namespace DirectorySearch

/-- A value that an attribute is compared with. -/
inductive FilterValue where
  /-- A truth value. -/
  | bool (b : Bool)
  /-- An integer. -/
  | integer (n : Int)
  /-- A double. -/
  | float (x : Binary64)
  /-- A string. -/
  | string (s : String)
  /-- Text that goes into the filter unchanged. -/
  | raw (expression : String)
deriving DecidableEq, Repr, Inhabited

/-- A character inside a string literal: a quote is escaped, everything else stands for itself. -/
def literalChar (c : Char) : List Char := if c = '"' then ['\\', '"'] else [c]

/-- The characters of a string literal. -/
def stringLiteral (s : List Char) : List Char := '"' :: (s.flatMap literalChar ++ ['"'])

/-- The literal of a double: shortest digits without exponent, and a name in quotes where there are
none. -/
def doubleLiteral (x : Binary64) : List Char :=
  match x.number with
  | .finite _ _ _ => x.plain
  | .nan => stringLiteral ['N', 'a', 'N']
  | .infinite false => stringLiteral ['I', 'n', 'f', 'i', 'n', 'i', 't', 'y']
  | .infinite true => stringLiteral ['-', 'I', 'n', 'f', 'i', 'n', 'i', 't', 'y']

namespace FilterValue

/-- The value of a single-precision number: the double with the same shortest digits. -/
def ofSingle (raw : UInt32) : FilterValue := .float (Binary64.ofSingle raw)

/-- **The literal of a value**, as it stands in a filter. -/
def literal : FilterValue → String
  | .bool true => "true"
  | .bool false => "false"
  | .integer n => String.ofList (Json.integerText n)
  | .float x => String.ofList (doubleLiteral x)
  | .string s => String.ofList (stringLiteral s.toList)
  | .raw expression => expression

end FilterValue

end DirectorySearch
