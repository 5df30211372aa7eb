import DirectorySearch.Text.Case

/-!
# The keywords of a filter

A filter compares attributes with one of ten operators and joins its clauses with one of two
connectors.

* `Operator`, `Connector` — the keywords.
* `Operator.parse?`, `Connector.parse?` — a keyword from its text in either case.
* `Operator.ofName?`, `Connector.ofName?` — a keyword from its exact name.
* `UnknownKeyword` — the error for a text that is none.
-/

namespace DirectorySearch

/-- A text that is no keyword where one was asked for. -/
structure UnknownKeyword where
  /-- The text. -/
  text : String
deriving DecidableEq, Repr

/-- The wording of the error. -/
def UnknownKeyword.message (e : UnknownKeyword) : String := "unknown keyword: '" ++ e.text ++ "'"

/-! ## Operators -/

/-- How an attribute is compared. -/
inductive Operator where
  /-- Equal. -/
  | eq
  /-- Not equal. -/
  | ne
  /-- Contains. -/
  | co
  /-- Starts with. -/
  | sw
  /-- Ends with. -/
  | ew
  /-- Has a value at all. -/
  | pr
  /-- Greater than. -/
  | gt
  /-- Greater than or equal to. -/
  | ge
  /-- Less than. -/
  | lt
  /-- Less than or equal to. -/
  | le
deriving DecidableEq, Repr

namespace Operator

/-- All operators. -/
def all : List Operator := [.eq, .ne, .co, .sw, .ew, .pr, .gt, .ge, .lt, .le]

/-- The keyword of an operator. -/
def keyword : Operator → String
  | .eq => "eq"
  | .ne => "ne"
  | .co => "co"
  | .sw => "sw"
  | .ew => "ew"
  | .pr => "pr"
  | .gt => "gt"
  | .ge => "ge"
  | .lt => "lt"
  | .le => "le"

/-- The operator whose keyword a text is, in either case. -/
def parse? (text : String) : Option Operator :=
  all.find? fun op => sameIgnoringCase op.keyword.toList text.toList

/-- The operator with exactly this keyword. -/
def ofName? (name : String) : Option Operator := all.find? fun op => op.keyword == name

/-- The operator a text names, or the error. -/
def read (text : String) : Except UnknownKeyword Operator :=
  match parse? text with
  | some op => .ok op
  | none => .error ⟨text⟩

end Operator

/-! ## Connectors -/

/-- How a clause is joined to the clauses before it. -/
inductive Connector where
  /-- Both must hold. -/
  | both
  /-- One must hold. -/
  | either
deriving DecidableEq, Repr, Inhabited

namespace Connector

/-- All connectors. -/
def all : List Connector := [.both, .either]

/-- The keyword of a connector. -/
def keyword : Connector → String
  | .both => "and"
  | .either => "or"

/-- The connector whose keyword a text is, in either case. -/
def parse? (text : String) : Option Connector :=
  all.find? fun c => sameIgnoringCase c.keyword.toList text.toList

/-- The connector with exactly this keyword. -/
def ofName? (name : String) : Option Connector := all.find? fun c => c.keyword == name

/-- The connector a text names, or the error. -/
def read (text : String) : Except UnknownKeyword Connector :=
  match parse? text with
  | some c => .ok c
  | none => .error ⟨text⟩

end Connector

end DirectorySearch
