import DirectorySearch.Text.Hex

/-!
# Strings in TOML

A string stands in double quotes, where a backslash starts an escape, or in single quotes, where it
does not.  Three quotes of a kind instead of one let it run over several lines.

* `readLineEnd?` — the end of a line, in either of its two forms.
* `isControl` — the characters that no string and no comment may hold.
* `readEscape?` — an escape.
* `readBasic?`, `readLiteral?`, `readLongBasic?`, `readLongLiteral?` — the four kinds of strings, from
  behind their opening quotes.
* **`readQuoted?`** — a string of any kind.

A line end right behind three opening quotes does not belong to the string; others do, in the form in
which they are written.  A backslash at the end of a line takes away all blanks up to the next character.
-/

namespace DirectorySearch.Toml

/-! ## Blanks, line ends and control characters -/

/-- A text without the spaces and tabs in front. -/
def skipSpaces (text : List Char) : List Char := text.dropWhile fun c => c = ' ' || c = '\t'

theorem skipSpaces_length (text : List Char) : (skipSpaces text).length ≤ text.length :=
  (List.dropWhile_suffix _).length_le

/-- What follows the end of a line: a line feed, or a carriage return with one. -/
def readLineEnd? : List Char → Option (List Char)
  | '\n' :: rest => some rest
  | '\r' :: '\n' :: rest => some rest
  | _ => none

theorem readLineEnd?_length {text rest : List Char} (h : readLineEnd? text = some rest) :
    rest.length < text.length := by
  unfold readLineEnd? at h
  split at h
  · obtain rfl := Option.some.inj h
    simp only [List.length_cons]
    omega
  · obtain rfl := Option.some.inj h
    simp only [List.length_cons]
    omega
  · cases h

/-- Whether a character is a control character other than the tab. -/
def isControl (c : Char) : Bool := (c.toNat < 0x20 && c ≠ '\t') || c.toNat = 0x7f

/-! ## Escapes -/

/-- The character of some hexadecimal digits. -/
def hexChar? (digits : List Char) : Option Char :=
  match digits.mapM hexValue? with
  | none => none
  | some values =>
    let n := values.foldl (fun n d => n * 16 + d) 0
    if n.isValidChar then some (Char.ofNat n) else none

/-- The character that an escape of one letter stands for. -/
def escapedLetter? : Char → Option Char
  | 'b' => some '\x08'
  | 't' => some '\t'
  | 'n' => some '\n'
  | 'f' => some '\x0c'
  | 'r' => some '\r'
  | 'e' => some '\x1b'
  | '"' => some '"'
  | '\\' => some '\\'
  | _ => none

/-- How many digits follow the letter of a numeric escape. -/
def escapedDigits? : Char → Option Nat
  | 'x' => some 2
  | 'u' => some 4
  | 'U' => some 8
  | _ => none

/-- An escape, from behind its backslash: the character, and how many further characters it took. -/
def readEscape? : List Char → Option (Char × Nat)
  | [] => none
  | c :: rest =>
    match escapedLetter? c, escapedDigits? c with
    | some e, _ => some (e, 0)
    | none, some n =>
      if n ≤ rest.length then (hexChar? (rest.take n)).map fun e => (e, n) else none
    | none, none => none

/-! ## Strings on one line -/

/-- A string in double quotes, from behind its opening quote. -/
def readBasic? : List Char → Option (List Char × List Char)
  | [] => none
  | '"' :: rest => some ([], rest)
  | '\\' :: rest =>
    match readEscape? rest with
    | none => none
    | some (e, n) => (readBasic? (rest.drop (n + 1))).map fun (s, rest) => (e :: s, rest)
  | c :: rest =>
    if isControl c then none else (readBasic? rest).map fun (s, rest) => (c :: s, rest)
termination_by text => text.length
decreasing_by
  · simp only [List.length_drop, List.length_cons]
    omega
  · simp

/-- A string in single quotes, from behind its opening quote. -/
def readLiteral? : List Char → Option (List Char × List Char)
  | [] => none
  | '\'' :: rest => some ([], rest)
  | c :: rest =>
    if isControl c then none else (readLiteral? rest).map fun (s, rest) => (c :: s, rest)

/-! ## Strings over several lines -/

/-- The quotes at the front of a text that close a string of several lines, where up to two more belong
to the string: those, and the rest. -/
def readClosing? (quote : Char) (text : List Char) : Option (List Char × List Char) :=
  let n := (text.takeWhile (· = quote)).length
  if n < 3 then none
  else
    let own := min (n - 3) 2
    some (List.replicate own quote, text.drop (own + 3))

/-- A text without the blanks and line ends in front. -/
def skipGaps : List Char → List Char
  | '\r' :: '\n' :: rest => skipGaps rest
  | c :: rest => if c = ' ' || c = '\t' || c = '\n' then skipGaps rest else c :: rest
  | [] => []

theorem skipGaps_length (text : List Char) : (skipGaps text).length ≤ text.length := by
  fun_induction skipGaps text with
  | case1 rest ih => exact Nat.le_trans ih (by simp only [List.length_cons]; omega)
  | case2 c rest _ _ ih => exact Nat.le_trans ih (by simp)
  | case3 => exact Nat.le_refl _
  | case4 => exact Nat.le_refl _

/-- What follows a backslash at the end of a line, without the blanks that it takes away. -/
def skipGap? (text : List Char) : Option (List Char) :=
  (readLineEnd? (skipSpaces text)).map skipGaps

theorem skipGap?_length {text rest : List Char} (h : skipGap? text = some rest) :
    rest.length < text.length := by
  unfold skipGap? at h
  cases hr : readLineEnd? (skipSpaces text) with
  | none => simp [hr] at h
  | some tail =>
    simp only [hr, Option.map_some, Option.some.injEq] at h
    have h₁ := skipGaps_length tail
    have h₂ := readLineEnd?_length hr
    have h₃ := skipSpaces_length text
    rw [← h]
    omega

/-- A string in three double quotes, from behind its opening quotes. -/
def readLongBasic? : List Char → Option (List Char × List Char)
  | [] => none
  | '\\' :: rest =>
    match _h : skipGap? rest with
    | some rest => readLongBasic? rest
    | none =>
      match readEscape? rest with
      | none => none
      | some (e, n) => (readLongBasic? (rest.drop (n + 1))).map fun (s, rest) => (e :: s, rest)
  | '\r' :: '\n' :: rest => (readLongBasic? rest).map fun (s, rest) => ('\r' :: '\n' :: s, rest)
  | c :: rest =>
    match readClosing? '"' (c :: rest) with
    | some closing => some closing
    | none =>
      if isControl c && c ≠ '\n' then none
      else (readLongBasic? rest).map fun (s, rest) => (c :: s, rest)
termination_by text => text.length
decreasing_by
  · have := skipGap?_length _h
    simp only [List.length_cons]
    omega
  · simp only [List.length_drop, List.length_cons]
    omega
  · simp only [List.length_cons]
    omega
  · simp

/-- A string in three single quotes, from behind its opening quotes. -/
def readLongLiteral? : List Char → Option (List Char × List Char)
  | [] => none
  | '\r' :: '\n' :: rest => (readLongLiteral? rest).map fun (s, rest) => ('\r' :: '\n' :: s, rest)
  | c :: rest =>
    match readClosing? '\'' (c :: rest) with
    | some closing => some closing
    | none =>
      if isControl c && c ≠ '\n' then none
      else (readLongLiteral? rest).map fun (s, rest) => (c :: s, rest)

/-- A text without the line end that it starts with. -/
def skipFirstLineEnd (text : List Char) : List Char := (readLineEnd? text).getD text

/-- **A string of any kind**, and the rest of the text. -/
def readQuoted? : List Char → Option (List Char × List Char)
  | '"' :: '"' :: '"' :: rest => readLongBasic? (skipFirstLineEnd rest)
  | '\'' :: '\'' :: '\'' :: rest => readLongLiteral? (skipFirstLineEnd rest)
  | '"' :: rest => readBasic? rest
  | '\'' :: rest => readLiteral? rest
  | _ => none

end DirectorySearch.Toml
