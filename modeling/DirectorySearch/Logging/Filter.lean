import DirectorySearch.Settings.Basic
import DirectorySearch.Settings.Expansion

/-!
# Which events are logged

A log filter is a list of directives, separated by commas.  A directive gives a level, for all events or
for those whose target starts with some text; in brackets it may ask for fields that the event has to
have.  Of the directives that speak of an event the most specific one decides.

* `Directive`, `Directive.parse?` — one directive.
* `LogFilter.parse?` — a filter; without any directive only errors are logged.
* **`LogFilter.allows`** — whether an event is logged.
* `LogFilter.ofSettings` — the filter of a program: from the environment, or from the settings.

A directive about spans, or about the value of a field, says nothing about an event outside any span,
and all events are.
-/

namespace DirectorySearch

/-! ## Levels -/

/-- The number of a text of decimal digits with a plus sign or without. -/
def readNatural? (text : List Char) : Option Nat :=
  let digits := match text with
    | '+' :: rest => rest
    | rest => rest
  if digits.isEmpty || !digits.all Char.isDigit then none
  else some (digits.foldl (fun n c => n * 10 + (c.toNat - '0'.toNat)) 0)

/-- How much a text lets through: the name of a level in either case, `off`, or a number up to five. -/
def readDetail? (text : List Char) : Option Nat :=
  match readNatural? text with
  | some n => if n ≤ 5 then some n else none
  | none =>
    if text.isEmpty then some LogLevel.error.detail
    else if sameIgnoringCase text ['o', 'f', 'f'] then some 0
    else
      (LogLevel.all.find? fun level => sameIgnoringCase level.name.toList text).map LogLevel.detail

/-! ## Directives -/

/-- One directive of a filter. -/
structure Directive where
  /-- What the target of an event has to start with. -/
  target : Option (List Char) := none
  /-- The span an event has to be in. -/
  inSpan : Option (List Char) := none
  /-- The fields an event has to have, each with the value it has to have. -/
  fields : List (List Char × Option (List Char)) := []
  /-- How much is let through. -/
  detail : Nat := LogLevel.trace.detail
deriving DecidableEq, Repr

namespace Directive

/-- A field that an event has to have. -/
def readField? (text : List Char) : Option (List Char × Option (List Char)) :=
  if text.isEmpty then none
  else some (text.takeWhile (· ≠ '='), ((DirectorySearch.fields '=' text)[1]?))

/-- Whether a character can start a directive. -/
def isStart (c : Char) : Bool :=
  c.isAlphanum || c = '-' || c = ':' || c = '_' ||
    (0x80 ≤ c.toNat && !isUnprintable c && !isBlank c)

/-- The level behind an equals sign. -/
def readLevel? (d : Directive) (text : List Char) : Option Directive :=
  if text.isEmpty then some d else (readDetail? text).map fun detail => { d with detail }

/-- What follows a bracket, with the blanks behind the directive. -/
def readEnd? (d : Directive) (blanks : List Char) : List Char → Option Directive
  | [] => some d
  | '=' :: rest => d.readLevel? (rest ++ blanks)
  | _ => none

/-- What follows an opening bracket: a span, and a field in braces. -/
def readSpan? (d : Directive) (blanks text : List Char) : Option Directive :=
  let isStop (c : Char) : Bool := c = ']' || c = '\x7b'
  let span := text.takeWhile (!isStop ·)
  match text.dropWhile (!isStop ·) with
  | ']' :: rest => ({ d with inSpan := some span } : Directive).readEnd? blanks rest
  | _ :: rest =>
    match readField? (rest.takeWhile (· ≠ '\x7d')), rest.dropWhile (· ≠ '\x7d') with
    | some field, '\x7d' :: ']' :: rest =>
      ({ d with inSpan := if span.isEmpty then none else some span, fields := [field] } :
        Directive).readEnd? blanks rest
    | _, _ => none
  | [] => none

/-- **A directive.**  A single word is a level if it is the name of one, and else a target.  Blanks around
a directive do no harm, but no level stands behind an equals sign if there are any. -/
def parse? (text : List Char) : Option Directive :=
  let blanks := (text.reverse.takeWhile isBlank).reverse
  let core := trim text
  if text.head?.any isBlank && core.contains '=' then none
  else
    match core with
    | [] => none
    | '[' :: rest => readSpan? {} blanks rest
    | c :: rest =>
      if !isStart c then none
      else
        let isStop (c : Char) : Bool := c = '=' || c = '['
        let target := (c :: rest).takeWhile (!isStop ·)
        match (c :: rest).dropWhile (!isStop ·) with
        | [] =>
          match readDetail? text with
          | some detail => some { detail }
          | none => some { target := some text }
        | '=' :: rest => ({ target := some target } : Directive).readLevel? (rest ++ blanks)
        | _ :: rest => ({ target := some target } : Directive).readSpan? blanks rest

/-- Whether a directive can speak of an event outside any span. -/
def isStatic (d : Directive) : Bool := d.inSpan.isNone && d.fields.all (·.2.isNone)

/-- Whether a directive speaks of an event. -/
def speaksOf (d : Directive) (r : LogRecord) : Bool :=
  (match d.target with
    | none => true
    | some target => target.isPrefixOf r.target.toList)
  && d.fields.all fun field => r.fields.any fun f => f.1.toList == field.1

/-- How specific a directive is: by the length of its target, then by the number of its fields. -/
def weight (d : Directive) : Nat × Nat :=
  (match d.target with
    | none => 0
    | some target => (utf8Bytes target).length + 1,
    d.fields.length)

/-- Whether the first directive is at least as specific as the second. -/
def outweighs (a b : Directive) : Bool :=
  let (m, n) := a.weight
  let (m', n') := b.weight
  m' < m || (m' = m && n' ≤ n)

end Directive

/-! ## Filters -/

/-- A filter: its directives in the order in which they are written. -/
abbrev LogFilter := List Directive

namespace LogFilter

/-- The filter that lets everything from a level on through. -/
def ofLevel (level : LogLevel) : LogFilter := [{ detail := level.detail }]

/-- A filter from its text. -/
def parse? (text : List Char) : Option LogFilter :=
  match (((fields ',' text).filter (!·.isEmpty)).mapM Directive.parse?) with
  | none => none
  | some [] => some (ofLevel .error)
  | some directives => some directives

/-- The directive that decides about an event: of the most specific ones the last. -/
def deciding? (filter : LogFilter) (r : LogRecord) : Option Directive :=
  (filter.filter fun d => d.isStatic && d.speaksOf r).foldl (fun best d =>
    match best with
    | none => some d
    | some b => if d.outweighs b then some d else some b) none

/-- **Whether an event is logged.** -/
def allows (filter : LogFilter) (r : LogRecord) : Bool :=
  (filter.deciding? r).any fun d => r.level.detail ≤ d.detail

/-- The filter of a program.  The variable `RUST_LOG` comes first, then the filter of the settings behind
their level; a text that is no filter counts for nothing. -/
def ofSettings (env : Environment) (s : LoggingSettings) : LogFilter :=
  match env.get? "RUST_LOG", s.filter with
  | some text, _ => (parse? text.toList).getD (ofLevel s.level)
  | none, some text => (parse? (s.level.name ++ "," ++ text).toList).getD (ofLevel s.level)
  | none, none => ofLevel s.level

end LogFilter

end DirectorySearch
