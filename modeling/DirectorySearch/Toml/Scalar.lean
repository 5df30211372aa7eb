import DirectorySearch.Text.Fields
import DirectorySearch.Text.Hex
import DirectorySearch.Toml.Value

/-!
# Numbers, dates and words in TOML

A value that starts with neither a quote nor a bracket is one word: an integer in one of four bases, a
floating point number, a date or a time, or a truth value.  A date and a time may be separated by a
space, so a word may hold one.

* `isWordChar` — the characters of words.
* **`scalar?`** — the value of a word.
-/

namespace DirectorySearch.Toml

/-! ## Numbers -/

/-- Digits without the underscores between them; an underscore stands between two digits. -/
def plainDigits? (isDigit : Char → Bool) (text : List Char) : Option (List Char) :=
  let groups := fields '_' text
  if groups.all fun group => !group.isEmpty && group.all isDigit then some groups.flatten else none

/-- The value of digits in a base. -/
def baseValue (base : Nat) (digits : List Char) : Nat :=
  digits.foldl (fun n c => n * base + (hexValue? c).getD 0) 0

/-- Whether a character is a digit of a base. -/
def isBaseDigit (base : Nat) (c : Char) : Bool := (hexValue? c).any (· < base)

/-- A natural number in a base, with underscores. -/
def natural? (base : Nat) (text : List Char) : Option Nat :=
  (plainDigits? (isBaseDigit base) text).map (baseValue base)

/-- A decimal number without superfluous zeros in front. -/
def decimal? (text : List Char) : Option Nat :=
  if text.head? = some '0' && 1 < text.length then none else natural? 10 text

/-- A text without the sign in front of it, and whether that was a minus sign. -/
def unsigned : List Char → Bool × List Char
  | '+' :: rest => (false, rest)
  | '-' :: rest => (true, rest)
  | rest => (false, rest)

/-- An integer: decimal with a sign, or without one in base 16, 8 or 2. -/
def integer? : List Char → Option Int
  | '0' :: 'x' :: rest => (natural? 16 rest).map Int.ofNat
  | '0' :: 'o' :: rest => (natural? 8 rest).map Int.ofNat
  | '0' :: 'b' :: rest => (natural? 2 rest).map Int.ofNat
  | text =>
    let (negative, rest) := unsigned text
    (decimal? rest).map fun n => if negative then -(n : Int) else n

/-- Whether a text is the part of a floating point number behind its whole part. -/
def isFraction (text : List Char) : Bool :=
  let digits (text : List Char) : Bool := (natural? 10 text).isSome
  let isExponent (text : List Char) : Bool := digits (unsigned text).2
  let isLetter (c : Char) : Bool := c = 'e' || c = 'E'
  match text with
  | '.' :: rest =>
    digits (rest.takeWhile (!isLetter ·)) &&
      match rest.dropWhile (!isLetter ·) with
      | [] => true
      | _ :: exponent => isExponent exponent
  | c :: exponent => isLetter c && isExponent exponent
  | [] => false

/-- Whether a text is a floating point number. -/
def isFloat (text : List Char) : Bool :=
  let (_, rest) := unsigned text
  let isWhole (c : Char) : Bool := c.isDigit || c = '_'
  rest = ['i', 'n', 'f'] || rest = ['n', 'a', 'n'] ||
    ((decimal? (rest.takeWhile isWhole)).isSome && isFraction (rest.dropWhile isWhole))

/-! ## Dates and times -/

/-- The number that exactly so many digits are. -/
def fixed? (count : Nat) (text : List Char) : Option Nat :=
  if text.length = count && text.all Char.isDigit then some (baseValue 10 text) else none

/-- The days of a month. -/
def daysIn (year month : Nat) : Nat :=
  if month = 2 then
    if year % 4 = 0 && (year % 100 ≠ 0 || year % 400 = 0) then 29 else 28
  else if month = 4 || month = 6 || month = 9 || month = 11 then 30 else 31

/-- Whether a text is a date. -/
def isDate (text : List Char) : Bool :=
  match fields '-' text with
  | [y, m, d] =>
    match fixed? 4 y, fixed? 2 m, fixed? 2 d with
    | some y, some m, some d => 1 ≤ m && m ≤ 12 && 1 ≤ d && d ≤ daysIn y m
    | _, _, _ => false
  | _ => false

/-- Whether a text is an hour and a minute. -/
def isMinute (h m : List Char) : Bool :=
  (fixed? 2 h).any (· < 24) && (fixed? 2 m).any (· < 60)

/-- Whether a text is a second, possibly with a fraction. -/
def isSecond (text : List Char) : Bool :=
  match fields '.' text with
  | [s] => (fixed? 2 s).any (· ≤ 60)
  | [s, fraction] =>
    (fixed? 2 s).any (· ≤ 60) && !fraction.isEmpty && fraction.all Char.isDigit
  | _ => false

/-- Whether a text is a time of day. -/
def isTime (text : List Char) : Bool :=
  match fields ':' text with
  | [h, m] => isMinute h m
  | [h, m, s] => isMinute h m && isSecond s
  | _ => false

/-- Whether a text is a time of day with its distance from universal time. -/
def isOffsetTime (text : List Char) : Bool :=
  let time := text.takeWhile fun c => c.isDigit || c = ':' || c = '.'
  isTime time &&
    match text.drop time.length with
    | ['Z'] | ['z'] => true
    | sign :: offset =>
      (sign = '+' || sign = '-') &&
        match fields ':' offset with
        | [h, m] => isMinute h m
        | _ => false
    | [] => false

/-- Whether a text is a date, a time, or both. -/
def isDatetime (text : List Char) : Bool :=
  isDate text || isTime text ||
    match text.drop 10 with
    | separator :: time =>
      isDate (text.take 10) && (separator = 'T' || separator = 't' || separator = ' ')
        && (isTime time || isOffsetTime time)
    | [] => false

/-! ## Words -/

/-- Whether a character can stand in a word. -/
def isWordChar (c : Char) : Bool :=
  c.isAlphanum || c = '+' || c = '-' || c = '.' || c = '_' || c = ':'

/-- The word in front of a text, and the rest.  Behind a date a space and a digit go on with the word. -/
def cutWord (text : List Char) : List Char × List Char :=
  let word := text.takeWhile isWordChar
  let rest := text.dropWhile isWordChar
  match rest with
  | ' ' :: d :: _ =>
    if isDate word && d.isDigit then
      (word ++ ' ' :: rest.tail.takeWhile isWordChar, rest.tail.dropWhile isWordChar)
    else (word, rest)
  | _ => (word, rest)

/-- **The value of a word.** -/
def scalar? (word : List Char) : Option Toml :=
  if word = ['t', 'r', 'u', 'e'] then some (.bool true)
  else if word = ['f', 'a', 'l', 's', 'e'] then some (.bool false)
  else
    match integer? word with
    | some n => some (.integer n)
    | none =>
      if isFloat word then some .float else if isDatetime word then some .datetime else none

end DirectorySearch.Toml
