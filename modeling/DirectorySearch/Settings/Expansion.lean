import DirectorySearch.Text.Fields

/-!
# References to the environment

A configuration may refer to variables of the environment: `${NAME}` stands for the value of `NAME`.
References are replaced line by line, before anything else is done with the text, and what is put in
their place is not looked at again.

* `Environment` — the variables.
* `LinePiece`, `scanLine` — a line cut into characters and references.  From the first `#` on there are
  none, wherever it stands; a name may hold one.
* **`expand`** — a text with its references replaced; the first name without a value is an error.
* `referencedNames` — the names it refers to; no other variable matters.

Line ends come out as line feeds.
-/

namespace DirectorySearch

/-- The variables of the environment. -/
abbrev Environment := List (String × String)

/-- The value of a variable.  A name that is empty or holds an equals sign or a null character names
none. -/
def Environment.get? (env : Environment) (name : String) : Option String :=
  if name.isEmpty || name.toList.any (fun c => c = '=' || c = '\x00') then none else env.lookup name

/-- A piece of a line. -/
inductive LinePiece where
  /-- A character that stands for itself. -/
  | char (c : Char)
  /-- A reference to a variable. -/
  | reference (name : List Char)
deriving DecidableEq, Repr

/-- The name of the reference that a text starts with, behind its brace, and the text after it. -/
def readReference? (text : List Char) : Option (List Char × List Char) :=
  match text.takeWhile (· ≠ '\x7d'), text.dropWhile (· ≠ '\x7d') with
  | c :: name, '\x7d' :: rest => some (c :: name, rest)
  | _, _ => none

theorem readReference?_length {text name rest : List Char}
    (h : readReference? text = some (name, rest)) : rest.length < text.length := by
  unfold readReference? at h
  split at h
  · next tail _ heq =>
    simp only [Option.some.injEq, Prod.mk.injEq] at h
    have hle := (List.dropWhile_suffix (fun c => decide (c ≠ '\x7d')) (l := text)).length_le
    rw [heq] at hle
    simp only [List.length_cons] at hle
    rw [← h.2]
    omega
  · simp at h

/-- The pieces of a line. -/
def scanLine : List Char → List LinePiece
  | [] => []
  | '#' :: rest => .char '#' :: rest.map .char
  | '$' :: '\x7b' :: rest =>
    match _h : readReference? rest with
    | some (name, rest) =>
      .reference name :: if name.contains '#' then rest.map .char else scanLine rest
    | none => .char '$' :: scanLine ('\x7b' :: rest)
  | c :: rest => .char c :: scanLine rest
termination_by text => text.length
decreasing_by
  all_goals simp
  have := readReference?_length _h
  omega

/-- The text of a piece, or the name that has no value. -/
def expandPiece (env : Environment) : LinePiece → Except String (List Char)
  | .char c => .ok [c]
  | .reference name =>
    match env.get? (String.ofList name) with
    | some value => .ok value.toList
    | none => .error (String.ofList name)

/-- Some pieces put together. -/
def expandPieces (env : Environment) : List LinePiece → Except String (List Char)
  | [] => .ok []
  | piece :: rest =>
    match expandPiece env piece with
    | .error name => .error name
    | .ok text => (expandPieces env rest).map (text ++ ·)

/-- A line with its references replaced. -/
def expandLine (env : Environment) (line : List Char) : Except String (List Char) :=
  expandPieces env (scanLine line)

/-- The name that a piece refers to. -/
def LinePiece.name? : LinePiece → Option String
  | .char _ => none
  | .reference name => some (String.ofList name)

/-- A line without a carriage return at its end. -/
def withoutReturn (line : List Char) : List Char :=
  if line.getLast? = some '\r' then line.dropLast else line

/-- The lines of a text, all but the last without a carriage return at the end. -/
def cleanLines : List (List Char) → List (List Char)
  | [] => []
  | [last] => [last]
  | line :: next :: rest => withoutReturn line :: cleanLines (next :: rest)

/-- Some lines with their references replaced. -/
def expandLines (env : Environment) : List (List Char) → Except String (List (List Char))
  | [] => .ok []
  | line :: rest =>
    match expandLine env line with
    | .error name => .error name
    | .ok text => (expandLines env rest).map (text :: ·)

/-- The names that a text refers to, in order. -/
def referencedNames (text : List Char) : List String :=
  (cleanLines (fields '\n' text)).flatMap fun line => (scanLine line).filterMap LinePiece.name?

/-- **A text with its references replaced**, or the first name that has no value. -/
def expand (env : Environment) (text : List Char) : Except String (List Char) :=
  (expandLines env (cleanLines (fields '\n' text))).map (joinFields '\n')

end DirectorySearch
