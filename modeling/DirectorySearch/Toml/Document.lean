import DirectorySearch.Toml.Quoted
import DirectorySearch.Toml.Scalar

/-!
# Documents in TOML

A document is a list of sections.  Each has a header that names a table, and lines that give values to
keys; the lines before the first header belong to the table that the document is.

* `Phrase` — a value as it is written: the tables in it are lists of assignments, not yet put together.
* `Section` — a header with its assignments.
* **`readDocument?`** — the sections of a text.

A key is a path: its parts are separated by dots, and each is a bare word or a string on one line.
-/

namespace DirectorySearch.Toml

/-- A value as it is written. -/
inductive Phrase where
  /-- A string, a number, a date or a truth value. -/
  | scalar (value : Toml)
  /-- An array. -/
  | array (items : List Phrase)
  /-- A table between braces. -/
  | table (assignments : List (List String × Phrase))
deriving Inhabited

/-- A value given to a key. -/
abbrev Assignment := List String × Phrase

/-- The header of a section. -/
inductive Header where
  /-- The document itself. -/
  | root
  /-- A table. -/
  | table (path : List String)
  /-- A further table of an array of tables. -/
  | item (path : List String)
deriving DecidableEq, Repr

/-- A header with its assignments. -/
structure Section where
  /-- What the assignments belong to. -/
  header : Header
  /-- The assignments. -/
  body : List Assignment

/-! ## Blanks and comments -/

/-- A text without the comment in front.  A comment ends at the first control character, and what comes
next has to be the end of a line. -/
def skipComment : List Char → List Char
  | '#' :: rest => rest.dropWhile (!isControl ·)
  | rest => rest

/-- What follows the end of a line, which may have a comment. -/
def skipLine? (text : List Char) : Option (List Char) :=
  match skipComment (skipSpaces text) with
  | [] => some []
  | rest => readLineEnd? rest

/-- A text without the blanks, line ends and comments in front; the first argument bounds the number of
line ends. -/
def skipLines : Nat → List Char → List Char
  | 0, text => text
  | n + 1, text =>
    let rest := skipComment (skipSpaces text)
    match readLineEnd? rest with
    | some rest => skipLines n rest
    | none => rest

/-- A text without the blanks, line ends and comments in front. -/
def skipAll (text : List Char) : List Char := skipLines (text.length + 1) text

/-! ## Keys -/

/-- Whether a character can stand in a bare key. -/
def isKeyChar (c : Char) : Bool := c.isAlphanum || c = '-' || c = '_'

/-- One part of a key. -/
def readKeyPart? : List Char → Option (String × List Char)
  | '"' :: rest => (readBasic? rest).map fun (s, rest) => (String.ofList s, rest)
  | '\'' :: rest => (readLiteral? rest).map fun (s, rest) => (String.ofList s, rest)
  | text =>
    let word := text.takeWhile isKeyChar
    if word.isEmpty then none else some (String.ofList word, text.dropWhile isKeyChar)

/-- A key, and the text behind it and the blanks after it; the first argument bounds the number of its
parts. -/
def readKey? : Nat → List Char → Option (List String × List Char)
  | 0, _ => none
  | n + 1, text =>
    match readKeyPart? (skipSpaces text) with
    | none => none
    | some (part, rest) =>
      match skipSpaces rest with
      | '.' :: rest => (readKey? n rest).map fun (parts, rest) => (part :: parts, rest)
      | rest => some ([part], rest)

/-! ## Values -/

mutual

/-- A value; the first argument bounds the depth and the number of values to come. -/
def readPhrase? : Nat → List Char → Option (Phrase × List Char)
  | 0, _ => none
  | n + 1, text =>
    match text with
    | '[' :: rest => (readItems? n rest).map fun (items, rest) => (.array items, rest)
    | '\x7b' :: rest => (readMembers? n rest).map fun (members, rest) => (.table members, rest)
    | '"' :: _ | '\'' :: _ =>
      (readQuoted? text).map fun (s, rest) => (.scalar (.string (String.ofList s)), rest)
    | _ =>
      let (word, rest) := cutWord text
      (scalar? word).map fun value => (.scalar value, rest)

/-- The items of an array, up to its end. -/
def readItems? : Nat → List Char → Option (List Phrase × List Char)
  | 0, _ => none
  | n + 1, text =>
    match skipAll text with
    | ']' :: rest => some ([], rest)
    | text =>
      match readPhrase? n text with
      | none => none
      | some (item, rest) =>
        match skipAll rest with
        | ',' :: rest => (readItems? n rest).map fun (items, rest) => (item :: items, rest)
        | ']' :: rest => some ([item], rest)
        | _ => none

/-- The assignments of a table between braces, up to its end. -/
def readMembers? : Nat → List Char → Option (List Assignment × List Char)
  | 0, _ => none
  | n + 1, text =>
    match skipAll text with
    | '\x7d' :: rest => some ([], rest)
    | text =>
      match readKey? text.length text with
      | some (key, '=' :: rest) =>
        match readPhrase? n (skipSpaces rest) with
        | none => none
        | some (value, rest) =>
          match skipAll rest with
          | ',' :: rest =>
            (readMembers? n rest).map fun (members, rest) => ((key, value) :: members, rest)
          | '\x7d' :: rest => some ([(key, value)], rest)
          | _ => none
      | _ => none

end

/-! ## Lines and sections -/

/-- A line that gives a value to a key, with its end. -/
def readAssignment? (text : List Char) : Option (Assignment × List Char) := do
  let (key, rest) ← readKey? text.length text
  let rest ← rest.head? >>= fun c => if c = '=' then some rest.tail else none
  let (value, rest) ← readPhrase? (rest.length + 1) (skipSpaces rest)
  let rest ← skipLine? rest
  return ((key, value), rest)

/-- A header, from behind its first bracket, with the end of its line. -/
def readHeader? : List Char → Option (Header × List Char)
  | '[' :: rest => do
    let (path, rest) ← readKey? rest.length rest
    match rest with
    | ']' :: ']' :: rest => return (.item path, ← skipLine? rest)
    | _ => none
  | rest => do
    let (path, rest) ← readKey? rest.length rest
    match rest with
    | ']' :: rest => return (.table path, ← skipLine? rest)
    | _ => none

/-- The sections of a text, the first with this header; the first argument bounds the number of lines.
-/
def readSections? : Nat → Header → List Assignment → List Char → Option (List Section)
  | 0, _, _, _ => none
  | n + 1, header, body, text =>
    match skipAll text with
    | [] => some [⟨header, body⟩]
    | '[' :: rest =>
      match readHeader? rest with
      | none => none
      | some (next, rest) => (readSections? n next [] rest).map (⟨header, body⟩ :: ·)
    | text =>
      match readAssignment? text with
      | none => none
      | some (assignment, rest) => readSections? n header (body ++ [assignment]) rest

/-- A text without the mark of its encoding in front. -/
def withoutMark : List Char → List Char
  | '\ufeff' :: rest => rest
  | rest => rest

/-- **The sections of a text.** -/
def readDocument? (text : List Char) : Option (List Section) :=
  let text := withoutMark text
  readSections? (text.length + 1) .root [] text

end DirectorySearch.Toml
