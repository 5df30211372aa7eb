import DirectorySearch.Json.Basic

/-!
# JSON texts as they are written

Reading a JSON text has two halves.  The first finds out what is written: which characters make up
each number, which parts each string has, which members an object names and in which order.  The
second says what it stands for, and may refuse: a number may be too large, a string may hold half a
surrogate pair, values may be nested too deeply.

* `Written` — a JSON text taken apart, nothing decided yet.
* **`Written.read?`** — the first half: a text that is one value between blanks.
* `NumberText.value?`, `stringText?`, `Written.value?` — the second half.
* `Json.parse?` — both.

Keeping the halves apart lets a reader skip a member without caring what its value stands for, and
lets a statement speak of the characters a number was written with.
-/

namespace DirectorySearch

/-! ## What can be written -/

/-- The exponent of a number: the letter, the sign if there is one, and the digits. -/
structure ExponentText where
  /-- The letter that starts it. -/
  letter : Char
  /-- Its sign. -/
  sign : Option Char
  /-- Its digits. -/
  digits : List Char
deriving DecidableEq, Repr

/-- A number, character by character. -/
structure NumberText where
  /-- Whether a minus sign comes first. -/
  negative : Bool
  /-- The digits before the point. -/
  whole : List Char
  /-- The digits after the point; none if there is no point. -/
  fraction : List Char
  /-- The exponent. -/
  exponent : Option ExponentText
deriving DecidableEq, Repr

/-- A part of a string: a character, or a UTF-16 unit given by its number. -/
inductive StringPart where
  /-- A character, written as itself or by a one-letter escape. -/
  | char (c : Char)
  /-- A unit, written by its four hexadecimal digits. -/
  | unit (u : Nat)
deriving DecidableEq, Repr

/-- A JSON text taken apart. -/
inductive Written where
  /-- The word `null`. -/
  | null
  /-- One of the words `true` and `false`. -/
  | bool (b : Bool)
  /-- A number. -/
  | number (t : NumberText)
  /-- A string. -/
  | string (parts : List StringPart)
  /-- An array. -/
  | array (items : List Written)
  /-- An object, its members in the order of the text. -/
  | object (members : List (List StringPart × Written))
deriving Inhabited

namespace ExponentText

/-- The characters of an exponent. -/
def characters (e : ExponentText) : List Char := e.letter :: (e.sign.toList ++ e.digits)

end ExponentText

namespace NumberText

/-- The characters of a number. -/
def characters (t : NumberText) : List Char :=
  signed t.negative <|
    t.whole ++ (if t.fraction = [] then [] else '.' :: t.fraction)
      ++ (t.exponent.map ExponentText.characters).getD []

end NumberText

/-! ## Taking a text apart -/

namespace Written

/-- Drops the four characters that may stand between tokens. -/
def skipBlanks (text : List Char) : List Char :=
  text.dropWhile fun c => c = ' ' || c = '\t' || c = '\n' || c = '\r'

/-- The digits in front of a text, and the rest. -/
def readDigits (text : List Char) : List Char × List Char :=
  (text.takeWhile Char.isDigit, text.dropWhile Char.isDigit)

/-- The digits before the point: a lone zero, or digits that start with another one. -/
def readWhole? : List Char → Option (List Char × List Char)
  | '0' :: rest =>
    match rest with
    | c :: _ => if c.isDigit then none else some (['0'], rest)
    | [] => some (['0'], [])
  | c :: rest => if c.isDigit then some (readDigits (c :: rest)) else none
  | [] => none

/-- The digits after the point, if there is a point. -/
def readFraction? : List Char → Option (List Char × List Char)
  | '.' :: rest =>
    match readDigits rest with
    | ([], _) => none
    | digits => some digits
  | rest => some ([], rest)

/-- The sign in front of a text, if there is one. -/
def readSign : List Char → Option Char × List Char
  | '+' :: rest => (some '+', rest)
  | '-' :: rest => (some '-', rest)
  | rest => (none, rest)

/-- The exponent, if there is one. -/
def readExponent? : List Char → Option (Option ExponentText × List Char)
  | c :: rest =>
    if c = 'e' || c = 'E' then
      let (sign, rest) := readSign rest
      match readDigits rest with
      | ([], _) => none
      | (digits, rest) => some (some ⟨c, sign, digits⟩, rest)
    else some (none, c :: rest)
  | [] => some (none, [])

/-- A number. -/
def readNumber? (text : List Char) : Option (NumberText × List Char) := do
  let (negative, text) := match text with
    | '-' :: rest => (true, rest)
    | rest => (false, rest)
  let (whole, text) ← readWhole? text
  let (fraction, text) ← readFraction? text
  let (exponent, text) ← readExponent? text
  return (⟨negative, whole, fraction, exponent⟩, text)

/-- The value of four hexadecimal digits. -/
def hexUnit? (a b c d : Char) : Option Nat := do
  return (← hexValue? a) * 4096 + (← hexValue? b) * 256 + (← hexValue? c) * 16 + (← hexValue? d)

/-- The character that a one-letter escape stands for. -/
def escape? : Char → Option Char
  | '"' => some '"'
  | '\\' => some '\\'
  | '/' => some '/'
  | 'b' => some '\x08'
  | 'f' => some '\x0c'
  | 'n' => some '\n'
  | 'r' => some '\r'
  | 't' => some '\t'
  | _ => none

/-- The parts of a string whose opening quote has been read, up to its closing quote. -/
def readString? : List Char → Option (List StringPart × List Char)
  | [] => none
  | '"' :: rest => some ([], rest)
  | '\\' :: 'u' :: a :: b :: c :: d :: rest =>
    match hexUnit? a b c d, readString? rest with
    | some u, some (parts, rest) => some (.unit u :: parts, rest)
    | _, _ => none
  | '\\' :: c :: rest =>
    match escape? c, readString? rest with
    | some e, some (parts, rest) => some (.char e :: parts, rest)
    | _, _ => none
  | c :: rest =>
    if c.toNat < 0x20 || c = '\\' then none
    else match readString? rest with
      | some (parts, rest) => some (.char c :: parts, rest)
      | none => none

mutual

/-- A value; the first argument bounds the number of values and separators still to come. -/
def readValue? : Nat → List Char → Option (Written × List Char)
  | 0, _ => none
  | n + 1, text =>
    match skipBlanks text with
    | 'n' :: 'u' :: 'l' :: 'l' :: rest => some (.null, rest)
    | 't' :: 'r' :: 'u' :: 'e' :: rest => some (.bool true, rest)
    | 'f' :: 'a' :: 'l' :: 's' :: 'e' :: rest => some (.bool false, rest)
    | '"' :: rest =>
      match readString? rest with
      | some (parts, rest) => some (.string parts, rest)
      | none => none
    | '[' :: rest =>
      match skipBlanks rest with
      | ']' :: rest => some (.array [], rest)
      | rest =>
        match readItems? n rest with
        | some (items, rest) => some (.array items, rest)
        | none => none
    | '\x7b' :: rest =>
      match skipBlanks rest with
      | '\x7d' :: rest => some (.object [], rest)
      | rest =>
        match readMembers? n rest with
        | some (members, rest) => some (.object members, rest)
        | none => none
    | rest =>
      match readNumber? rest with
      | some (t, rest) => some (.number t, rest)
      | none => none

/-- One or more items of an array, up to its end. -/
def readItems? : Nat → List Char → Option (List Written × List Char)
  | 0, _ => none
  | n + 1, text =>
    match readValue? n text with
    | none => none
    | some (item, rest) =>
      match skipBlanks rest with
      | ']' :: rest => some ([item], rest)
      | ',' :: rest =>
        match readItems? n rest with
        | some (items, rest) => some (item :: items, rest)
        | none => none
      | _ => none

/-- One or more members of an object, up to its end. -/
def readMembers? : Nat → List Char → Option (List (List StringPart × Written) × List Char)
  | 0, _ => none
  | n + 1, text =>
    match skipBlanks text with
    | '"' :: rest =>
      match readString? rest with
      | none => none
      | some (key, rest) =>
        match skipBlanks rest with
        | ':' :: rest =>
          match readValue? n rest with
          | none => none
          | some (value, rest) =>
            match skipBlanks rest with
            | '\x7d' :: rest => some ([(key, value)], rest)
            | ',' :: rest =>
              match readMembers? n rest with
              | some (members, rest) => some ((key, value) :: members, rest)
              | none => none
            | _ => none
        | _ => none
    | _ => none

end

/-- **Takes a text apart** that is one value with blanks around it.  Every value and every separator
takes a character, so the length of the text bounds their number. -/
def read? (text : List Char) : Option Written :=
  match readValue? (text.length + 1) text with
  | some (w, rest) => if (skipBlanks rest).isEmpty then some w else none
  | none => none

end Written

/-! ## What numbers stand for -/

/-- The largest unsigned integer that is kept as one. -/
def maxUnsigned : Nat := UInt64.size - 1

/-- Takes digits into a significand as long as it fits 64 bits; gives the significand and the digits
that no longer fitted. -/
def takeSignificand (n : Nat) : List Char → Nat × List Char
  | [] => (n, [])
  | c :: rest =>
    let m := n * 10 + (c.toNat - '0'.toNat)
    if m ≤ maxUnsigned then takeSignificand m rest else (n, c :: rest)

/-- The value of a list of digits. -/
def digitsValue (digits : List Char) : Nat :=
  digits.foldl (fun n c => n * 10 + (c.toNat - '0'.toNat)) 0

/-- The double of a power of ten. -/
def powerOfTen (k : Nat) : Binary64 := Binary64.ofNat (Nat.pow 10 k)

/-- Multiplies or divides a double by a power of ten, at most `10 ^ 308` at a time; nothing where the
result would be infinite.  A double that fits 64 bits is zero after three divisions by `10 ^ 308`. -/
def scaleByTen : Nat → Binary64 → Int → Option Binary64
  | 0, x, _ => some x
  | n + 1, x, exponent =>
    if exponent.natAbs ≤ 308 then
      if 0 ≤ exponent then
        let y := x.mul (powerOfTen exponent.natAbs)
        if y.isInfinite then none else some y
      else some (x.div (powerOfTen exponent.natAbs))
    else if x.isZero then some x
    else if 0 ≤ exponent then none
    else scaleByTen n (x.div (powerOfTen 308)) (exponent + 308)

/-- The double `± significand · 10 ^ exponent`, by one conversion and then `scaleByTen`; so it may be
a unit away from the nearest double. -/
def scaledDouble? (negative : Bool) (significand : Nat) (exponent : Int) : Option Binary64 :=
  (scaleByTen 4 (Binary64.ofNat significand) exponent).map fun x => if negative then x.neg else x

namespace NumberText

/-- Whether nothing but digits and a sign is written. -/
def isWhole (t : NumberText) : Bool := t.fraction.isEmpty && t.exponent.isNone

/-- The significand and the power of ten that belong to the digits.  Digits that do not fit 64 bits
are dropped: before the point each counts a power of ten, behind it nothing. -/
def significand (t : NumberText) : Nat × Int :=
  let (n, dropped) := takeSignificand 0 t.whole
  let (m, unread) := takeSignificand n t.fraction
  (m, (dropped.length : Int) - (t.fraction.length - unread.length : Nat))

/-- **What a number stands for**: an integer if it is written as one and fits 64 bits, otherwise a
double; nothing if it is beyond the doubles.  A zero with a minus sign is a double, which keeps the
sign. -/
def value? (t : NumberText) : Option Json :=
  if t.isWhole && (takeSignificand 0 t.whole).2.isEmpty then
    let n := (takeSignificand 0 t.whole).1
    if !t.negative then some (.integer n)
    else if 0 < n && n ≤ Nat.pow 2 63 then some (.integer (-n))
    else some (.float (Binary64.ofNat n).neg)
  else
    let (m, shift) := t.significand
    match t.exponent with
    | none => (scaledDouble? t.negative m shift).map .float
    | some e =>
      let size := digitsValue e.digits
      if Nat.pow 2 31 ≤ size then
        if m ≠ 0 && e.sign ≠ some '-' then none else some (.float (Binary64.zero t.negative))
      else
        let exponent := if e.sign = some '-' then shift - size else shift + size
        (scaledDouble? t.negative m exponent).map .float

end NumberText

/-! ## What strings and values stand for -/

/-- Whether a unit is the first half of a surrogate pair. -/
def isHighSurrogate (u : Nat) : Bool := 0xd800 ≤ u && u < 0xdc00

/-- Whether a unit is the second half of a surrogate pair. -/
def isLowSurrogate (u : Nat) : Bool := 0xdc00 ≤ u && u < 0xe000

/-- The text of a string; nothing if a unit is half a surrogate pair without the other half. -/
def stringText? : List StringPart → Option (List Char)
  | [] => some []
  | .char c :: rest => (stringText? rest).map (c :: ·)
  | .unit u :: rest =>
    if isLowSurrogate u then none
    else if isHighSurrogate u then
      match rest with
      | .unit v :: rest =>
        if isLowSurrogate v then
          let c := Char.ofNat (0x10000 + (u - 0xd800) * 0x400 + (v - 0xdc00))
          (stringText? rest).map (c :: ·)
        else none
      | _ => none
    else (stringText? rest).map (Char.ofNat u :: ·)

namespace Written

mutual

/-- How many arrays and objects lie around the innermost value. -/
def depth : Written → Nat
  | .array items => itemsDepth items + 1
  | .object members => membersDepth members + 1
  | _ => 0

/-- The depth of the deepest item. -/
def itemsDepth : List Written → Nat
  | [] => 0
  | item :: items => max (depth item) (itemsDepth items)

/-- The depth of the deepest member. -/
def membersDepth : List (List StringPart × Written) → Nat
  | [] => 0
  | (_, value) :: members => max (depth value) (membersDepth members)

end

mutual

/-- What a text stands for. -/
def value? : Written → Option Json
  | .null => some .null
  | .bool b => some (.bool b)
  | .number t => t.value?
  | .string parts => (stringText? parts).map fun s => .string (String.ofList s)
  | .array items => (itemValues? items).map .array
  | .object members => (memberValues? members []).map .object

/-- What the items of an array stand for. -/
def itemValues? : List Written → Option (List Json)
  | [] => some []
  | item :: items =>
    match value? item, itemValues? items with
    | some v, some vs => some (v :: vs)
    | _, _ => none

/-- What the members of an object stand for, added in order to those already read. -/
def memberValues? : List (List StringPart × Written) → List (String × Json) →
    Option (List (String × Json))
  | [], sorted => some sorted
  | (key, value) :: members, sorted =>
    match stringText? key, value? value with
    | some k, some v => memberValues? members (insertMember (String.ofList k) v sorted)
    | _, _ => none

end

/-- How deeply arrays and objects may be nested. -/
def maxDepth : Nat := 127

end Written

/-- **Reads a JSON text.** -/
def Json.parse? (text : String) : Option Json :=
  match Written.read? text.toList with
  | some w => if w.depth ≤ Written.maxDepth then w.value? else none
  | none => none

end DirectorySearch
