import DirectorySearch.Decimal.Layout
import DirectorySearch.Text.Hex

/-!
# JSON values

The values that replies carry and that entries are.  A number is an integer when it was written as
one and fits 64 bits, and a double otherwise.  The members of an object that is read are sorted by key,
each key once, so that two objects with the same members are the same value however they were written.

* `Json` — the values.
* `Json.member?`, `insertMember` — reading and writing one member.
* `Json.text` — the text of a value: no blanks, keys in order, only control characters, quotes and
  backslashes escaped.
-/

namespace DirectorySearch

/-- A JSON value. -/
inductive Json where
  /-- The value `null`. -/
  | null
  /-- A truth value. -/
  | bool (b : Bool)
  /-- A number without fraction and exponent that fits 64 bits, signed or unsigned. -/
  | integer (n : Int)
  /-- Any other number. -/
  | float (x : Binary64)
  /-- A string. -/
  | string (s : String)
  /-- An array. -/
  | array (items : List Json)
  /-- An object; its members are sorted by key unless they are put in another order on purpose. -/
  | object (members : List (String × Json))
deriving Inhabited

/-- Puts a member in its place, instead of an earlier member of that key. -/
def insertMember {α : Type} (key : String) (value : α) : List (String × α) → List (String × α)
  | [] => [(key, value)]
  | (k, v) :: rest =>
    if key < k then (key, value) :: (k, v) :: rest
    else if key = k then (key, value) :: rest
    else (k, v) :: insertMember key value rest

namespace Json

/-- An object with the given members; of two with one key the later counts. -/
def ofMembers (members : List (String × Json)) : Json :=
  .object (members.foldl (fun sorted member => insertMember member.1 member.2 sorted) [])

/-- The member of a key, if this is an object that has one. -/
def member? : Json → String → Option Json
  | .object members, key => members.lookup key
  | _, _ => none

/-- The number, if this is an integer that is not negative. -/
def natural? : Json → Option Nat
  | .integer (.ofNat n) => some n
  | _ => none

/-! ## The text of a value -/

/-- A character inside a JSON string. -/
def escapeChar (c : Char) : List Char :=
  if c = '"' then ['\\', '"']
  else if c = '\\' then ['\\', '\\']
  else if c = '\n' then ['\\', 'n']
  else if c = '\t' then ['\\', 't']
  else if c = '\r' then ['\\', 'r']
  else if c = '\x08' then ['\\', 'b']
  else if c = '\x0c' then ['\\', 'f']
  else if c.toNat < 0x20 then ['\\', 'u', '0', '0', lowerHexDigit (c.toNat / 16), lowerHexDigit c.toNat]
  else [c]

/-- A JSON string with its quotes. -/
def quote (s : List Char) : List Char := '"' :: (s.flatMap escapeChar ++ ['"'])

/-- The text of an integer. -/
def integerText : Int → List Char
  | .ofNat n => decimalDigits n
  | .negSucc n => '-' :: decimalDigits (n + 1)

mutual

/-- The characters of a value. -/
def characters : Json → List Char
  | .null => ['n', 'u', 'l', 'l']
  | .bool true => ['t', 'r', 'u', 'e']
  | .bool false => ['f', 'a', 'l', 's', 'e']
  | .integer n => integerText n
  | .float x => x.scientific
  | .string s => quote s.toList
  | .array [] => ['[', ']']
  | .array (item :: items) => '[' :: (characters item ++ itemCharacters items)
  | .object [] => ['\x7b', '\x7d']
  | .object ((key, value) :: members) =>
    '\x7b' :: (quote key.toList ++ ':' :: (characters value ++ memberCharacters members))

/-- The further items of an array, up to its end. -/
def itemCharacters : List Json → List Char
  | [] => [']']
  | item :: items => ',' :: (characters item ++ itemCharacters items)

/-- The further members of an object, up to its end. -/
def memberCharacters : List (String × Json) → List Char
  | [] => ['\x7d']
  | (key, value) :: members =>
    ',' :: (quote key.toList ++ ':' :: (characters value ++ memberCharacters members))

end

/-- The text of a value. -/
def text (j : Json) : String := String.ofList j.characters

end Json

end DirectorySearch
