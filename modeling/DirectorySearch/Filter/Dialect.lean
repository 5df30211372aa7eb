import DirectorySearch.Filter.Condition
import DirectorySearch.Query.Compiled

/-!
# Dialects

Directories agree on the shape of a filter and differ in details.  A dialect says how presence is
tested, how the wanted attributes are listed, and what else goes into a query; everything else is
common to all.

* `Dialect` — the details.  `Dialect.scim` and `Dialect.pingDirectory` are the two that ship.
* **`Dialect.filter`** — the filter of a list of conditions: the clauses in order, each after its
  connector, and the first connector cut off again.
* `Dialect.clause` — the clause of one condition, without its connector.

A membership test expands into comparisons, joined by `or`, or by `and` when it is negated.  Its
expansion gets parentheses, which are taken off again where the test is the whole filter.
-/

namespace DirectorySearch

/-- `not (…)` around a negated expression, `(…)` around a grouped one, nothing otherwise. -/
def wrapExpression (expression : String) (negate wrap : Bool) : String :=
  if negate then "not (" ++ expression ++ ")"
  else if wrap then "(" ++ expression ++ ")"
  else expression

/-- A text without the given keyword and space at its start, if it starts with them in either case. -/
def cutKeyword? (keyword text : List Char) : Option (List Char) :=
  let head := text.take keyword.length
  match text.drop keyword.length with
  | ' ' :: rest => if sameIgnoringCase head keyword then some rest else none
  | _ => none

/-- A filter without the connector it starts with. -/
def cutConnector (text : List Char) : List Char :=
  match cutKeyword? Connector.both.keyword.toList text with
  | some rest => rest
  | none =>
    match cutKeyword? Connector.either.keyword.toList text with
    | some rest => rest
    | none => text

/-- A filter without the parentheses at its two ends, if it has both. -/
def cutParentheses : List Char → List Char
  | '(' :: rest => if rest.getLast? = some ')' then rest.dropLast else '(' :: rest
  | text => text

/-- Clauses with their connectors, one after the other. -/
def glueClauses (clauses : List (Connector × String)) : String :=
  String.intercalate " " (clauses.map fun clause => clause.1.keyword ++ " " ++ clause.2)

/-- The filter of some clauses: glued together, the first connector cut off. -/
def joinClauses (clauses : List (Connector × String)) : String :=
  String.ofList (cutConnector (glueClauses clauses).toList)

/-- The conditions whose filter sheds its outer parentheses: one membership test, not negated. -/
def isLoneMembership : List Condition → Bool
  | [.membership _ _ _ false] => true
  | _ => false

/-- The filter of a list of conditions, from the clauses of all of them. -/
def finishFilter (conditions : List Condition) (clauses : List (Connector × String)) : String :=
  if conditions.isEmpty then ""
  else if isLoneMembership conditions then
    String.ofList (cutParentheses (joinClauses clauses).toList)
  else joinClauses clauses

/-- The clause `attribute operator value`. -/
def comparisonClause (attr : String) (operator : Operator) (value : FilterValue)
    (negate : Bool) : String :=
  wrapExpression (attr ++ " " ++ operator.keyword ++ " " ++ value.literal) negate false

/-- The clause `attribute pr`. -/
def presenceClause (attr : String) (negate : Bool) : String :=
  wrapExpression (attr ++ " pr") negate false

/-- The clause of a membership test.  Without values it is a group that no entry satisfies. -/
def membershipClause (attr : String) (values : List FilterValue) (negate : Bool) : String :=
  let inner :=
    if values.isEmpty then attr ++ " pr and not (" ++ attr ++ " pr)"
    else
      let connector : Connector := if negate then .both else .either
      joinClauses (values.map fun value => (connector, comparisonClause attr .eq value false))
  wrapExpression inner negate true

/-- The details in which directories differ. -/
structure Dialect where
  /-- The clause that tests whether an attribute has a value, negated or not. -/
  presence : String → Bool → String := presenceClause
  /-- The list of attributes to return. -/
  projection : List String → String := fun attributes => String.intercalate "," attributes
  /-- Changes to the query that counts entries from an offset. -/
  adapt : CompiledQuery → CompiledQuery := id
deriving Inhabited

namespace Dialect

mutual

/-- The clause of one condition, without its connector. -/
def clause (d : Dialect) : Condition → String
  | .comparison attr operator value _ negate =>
    comparisonClause attr operator value negate
  | .presence attr _ negate => d.presence attr negate
  | .membership attr values _ negate => membershipClause attr values negate
  | .raw expression _ => expression
  | .group conditions _ negate =>
    wrapExpression (finishFilter conditions (clauses d conditions)) negate true

/-- The clauses of some conditions, each with its connector. -/
def clauses (d : Dialect) : List Condition → List (Connector × String)
  | [] => []
  | condition :: conditions => (condition.connector, clause d condition) :: clauses d conditions

end

/-- **The filter of a list of conditions.** -/
def filter (d : Dialect) (conditions : List Condition) : String :=
  finishFilter conditions (d.clauses conditions)

/-- The clause of a group of conditions. -/
def groupClause (d : Dialect) (conditions : List Condition) (negate : Bool) : String :=
  wrapExpression (d.filter conditions) negate true

/-- The standard dialect: entries are counted from an offset. -/
def scim : Dialect := {}

/-- The dialect of PingDirectory: no offsets, and the whole subtree is searched. -/
def pingDirectory : Dialect :=
  { adapt := fun q => { q with offset := none, searchScope := some "wholeSubtree" } }

end Dialect

end DirectorySearch
