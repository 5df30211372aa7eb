import DirectorySearch.Filter.Dialect

/-!
# The expression a list of conditions denotes

Conditions are compiled to text.  This file says what they mean without going through text, by
recursion over the tree.

* `Literal`, `FilterExpr` — values and filters as a reader of the text sees them.  Parentheses are
  kept, as `group`.
* `runs` — the maximal runs of clauses joined by `and`.  The connector of the first clause joins
  nothing and is ignored.
* **`filterExpression`** — the expression of a list of conditions: its runs joined by `or`, for `and`
  binds tighter.
* `Condition.isReadable` — whether the text of a condition can be read back at all: it has no raw text
  and no empty group, its attribute names are attribute paths, and its strings are free of
  backslashes.

A membership test that stands alone has no parentheses, and neither has its expression.
-/

namespace DirectorySearch

/-! ## Literals -/

/-- A value as a reader sees it. -/
inductive Literal where
  | null
  | bool (b : Bool)
  /-- A number, by its characters. -/
  | number (text : String)
  | string (s : String)
  /-- Text that is carried along unread. -/
  | raw (text : String)
deriving DecidableEq, Repr

/-- The literal that a value denotes.  A double that is no number is a string. -/
def FilterValue.denoted : FilterValue → Literal
  | .bool b => .bool b
  | .integer n => .number (String.ofList (Json.integerText n))
  | .float x =>
    match x.number with
    | .finite _ _ _ => .number (String.ofList x.plain)
    | .nan => .string "NaN"
    | .infinite false => .string "Infinity"
    | .infinite true => .string "-Infinity"
  | .string s => .string s
  | .raw expression => .raw expression

/-! ## Expressions -/

/-- A filter as a reader sees it. -/
inductive FilterExpr where
  | test (attr : String) (operator : Operator) (value : Literal)
  | present (attr : String)
  /-- `not (…)`. -/
  | negation (e : FilterExpr)
  /-- `(…)`. -/
  | group (e : FilterExpr)
  /-- `… and …`. -/
  | both (a b : FilterExpr)
  /-- `… or …`. -/
  | either (a b : FilterExpr)
  /-- Text that is carried along unread. -/
  | raw (text : String)
deriving DecidableEq, Repr

namespace FilterExpr

/-- An expression, negated or grouped on demand. -/
def wrap (e : FilterExpr) (negate wrap : Bool) : FilterExpr :=
  if negate then .negation e else if wrap then .group e else e

/-- Expressions joined in order. -/
def chain (join : FilterExpr → FilterExpr → FilterExpr) : List FilterExpr → FilterExpr
  | [] => .raw ""
  | [e] => e
  | e :: es => join e (chain join es)

@[simp] theorem chain_singleton (join : FilterExpr → FilterExpr → FilterExpr) (e : FilterExpr) :
    chain join [e] = e := rfl

@[simp] theorem chain_cons_cons (join : FilterExpr → FilterExpr → FilterExpr)
    (e f : FilterExpr) (es : List FilterExpr) :
    chain join (e :: f :: es) = join e (chain join (f :: es)) := rfl

end FilterExpr

/-- **The maximal runs joined by `and`**, from left to right. -/
def runs {α : Type} : List (Connector × α) → List (List α)
  | [] => []
  | (_, a) :: rest =>
    (a :: (rest.takeWhile (·.1 = .both)).map Prod.snd) :: runs (rest.dropWhile (·.1 = .both))
termination_by clauses => clauses.length
decreasing_by
  exact Nat.lt_succ_of_le (List.dropWhile_sublist _).length_le

/-- The expression of some clauses: `and` binds tighter than `or`. -/
def joinExpressions (clauses : List (Connector × FilterExpr)) : FilterExpr :=
  .chain .either ((runs clauses).map (.chain .both))

/-- What a membership test says of its values.  Without values it contradicts itself. -/
def membershipExpression (attr : String) (values : List FilterValue) (negate : Bool) : FilterExpr :=
  if values.isEmpty then .both (.present attr) (.negation (.present attr))
  else
    .chain (if negate then .both else .either)
      (values.map fun value => .test attr .eq value.denoted)

/-- The expression of a list of conditions, from the expressions of all of them. -/
def finishExpression (conditions : List Condition) (clauses : List (Connector × FilterExpr)) :
    FilterExpr :=
  match conditions with
  | [.membership attr values _ false] => membershipExpression attr values false
  | _ => joinExpressions clauses

mutual

/-- The expression of one condition, without its connector. -/
def Condition.expression : Condition → FilterExpr
  | .comparison attr operator value _ negate =>
    (FilterExpr.test attr operator value.denoted).wrap negate false
  | .presence attr _ negate => (FilterExpr.present attr).wrap negate false
  | .membership attr values _ negate => (membershipExpression attr values negate).wrap negate true
  | .raw expression _ => .raw expression
  | .group conditions _ negate =>
    (finishExpression conditions (Condition.expressions conditions)).wrap negate true

/-- The expressions of some conditions, each with its connector. -/
def Condition.expressions : List Condition → List (Connector × FilterExpr)
  | [] => []
  | condition :: conditions =>
    (condition.connector, condition.expression) :: Condition.expressions conditions

end

/-- **The expression of a list of conditions.** -/
def filterExpression (conditions : List Condition) : FilterExpr :=
  finishExpression conditions (Condition.expressions conditions)

/-! ## What can be read back -/

/-- A character of an attribute path. -/
def isPathChar (c : Char) : Bool := c.isAlphanum || c ∈ ['-', '_', '.', ':', '$']

/-- An attribute path: a letter, then letters, digits and marks. -/
def isAttributePath (attr : String) : Bool :=
  match attr.toList with
  | c :: cs => c.isAlpha && cs.all isPathChar
  | [] => false

/-- A value that can be read back.  A lax reader takes control characters in a string. -/
def FilterValue.isReadable (lax : Bool) : FilterValue → Bool
  | .string s => s.toList.all fun c => c ≠ '\\' && (lax || 0x20 ≤ c.toNat)
  | .raw _ => false
  | _ => true

mutual

/-- A condition that can be read back. -/
def Condition.isReadable (lax : Bool) : Condition → Bool
  | .comparison attr operator value _ _ =>
    isAttributePath attr && operator ≠ .pr && value.isReadable lax
  | .presence attr _ _ => isAttributePath attr
  | .membership attr values _ _ => isAttributePath attr && values.all (·.isReadable lax)
  | .raw _ _ => false
  | .group conditions _ _ => !conditions.isEmpty && Condition.areReadable lax conditions

/-- Conditions that can all be read back. -/
def Condition.areReadable (lax : Bool) : List Condition → Bool
  | [] => true
  | condition :: conditions =>
    condition.isReadable lax && Condition.areReadable lax conditions

end

end DirectorySearch
