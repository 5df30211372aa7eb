import DirectorySearch.Filter.Dialect

/-!
# Building a query

A query under construction is a list of conditions with the attributes wanted, a limit and an offset.
Conditions are only ever added at the end.

* `QueryBuilder` — the query under construction; `QueryBuilder.compile` gives what is sent.
* `compare`, `addPresence`, `addMembership`, `addRaw`, `addGroup`, `addBatch` — one kind of condition
  each.
* **`addWhere`** — a comparison whose operator is any text.  A text that is no operator is taken for
  the value; a missing value means that the attribute is absent, except that an operator which needs a
  value refuses.

A group without conditions is not added.
-/

namespace DirectorySearch

/-- Why a condition cannot be added. -/
inductive QueryError where
  /-- An operator that needs a value came without one. -/
  | illegalOperatorAndValue
deriving DecidableEq, Repr

/-- The wording of the error. -/
def QueryError.message : QueryError → String
  | .illegalOperatorAndValue => "Invalid argument: Illegal operator and value combination."

/-- One line of a batch of conditions. -/
inductive BatchLine where
  /-- An attribute that equals a value. -/
  | value (attr : String) (value : FilterValue)
  /-- An attribute compared with a value by an operator of any text. -/
  | operator (attr operator : String) (value : FilterValue)
deriving DecidableEq, Repr

/-- Several conditions that are added as one group. -/
inductive Batch where
  /-- Attributes that equal values, joined as the group is. -/
  | map (entries : List (String × FilterValue))
  /-- Comparisons that must all hold. -/
  | lines (lines : List BatchLine)
deriving DecidableEq, Repr

/-- A query under construction. -/
structure QueryBuilder where
  /-- The conditions, in the order in which they were added. -/
  conditions : List Condition := []
  /-- The attributes to return. -/
  attributes : List String := ["*"]
  /-- How many entries to return. -/
  limit : UInt32 := 100
  /-- How many entries to skip. -/
  offset : UInt32 := 0
  /-- How the query is written. -/
  dialect : Dialect := .scim
deriving Inhabited

namespace QueryBuilder

/-- A new query in a dialect. -/
def new (dialect : Dialect) : QueryBuilder := { dialect }

/-- A new query in the dialect of this one. -/
def newQuery (b : QueryBuilder) : QueryBuilder := new b.dialect

/-- The query with one more condition, unless that is an empty group. -/
def push (b : QueryBuilder) (condition : Condition) : QueryBuilder :=
  if condition.isEmptyGroup then b else { b with conditions := b.conditions ++ [condition] }

/-! ## Comparisons -/

/-- Adds a comparison. -/
def compare (b : QueryBuilder) (attr : String) (operator : Operator) (value : FilterValue)
    (connector : Connector) (negate : Bool) : QueryBuilder :=
  b.push (.comparison attr operator value connector negate)

/-- Adds a comparison by an operator of any text; a text that is no operator is itself the value. -/
def compareBy (b : QueryBuilder) (attr operator : String) (value : FilterValue)
    (connector : Connector) (negate : Bool) : QueryBuilder :=
  match Operator.parse? operator with
  | some op => b.compare attr op value connector negate
  | none => b.compare attr .eq (.string operator) connector negate

/-- Adds the comparison that an attribute equals a value. -/
def whereEquals (b : QueryBuilder) (attr : String) (value : FilterValue) : QueryBuilder :=
  b.compare attr .eq value .both false

/-- Whether a text is none of the operators. -/
def invalidOperator (operator : String) : Bool := (Operator.parse? operator).isNone

/-- Whether a text is an operator that needs a value while there is none. -/
def invalidOperatorAndValue (operator : String) (value : Option FilterValue) : Bool :=
  value.isNone && match Operator.parse? operator with
    | some op => op ≠ .pr
    | none => false

/-- The value and the operator of a comparison; without an operator it is `eq`. -/
def prepare (value : Option FilterValue) (operator : Option String) :
    Except QueryError (Option FilterValue × String) :=
  match operator with
  | none => .ok (value, Operator.eq.keyword)
  | some operator =>
    if invalidOperatorAndValue operator value then .error .illegalOperatorAndValue
    else .ok (value, operator)

/-! ## Other conditions -/

/-- Adds, for each attribute, the test that it has a value. -/
def addPresence (b : QueryBuilder) (attributes : List String) (connector : Connector)
    (negate : Bool) : QueryBuilder :=
  attributes.foldl (fun b attr => b.push (.presence attr connector negate)) b

/-- Adds the test that an attribute equals one of several values. -/
def addMembership (b : QueryBuilder) (attr : String) (values : List FilterValue)
    (connector : Connector) (negate : Bool) : QueryBuilder :=
  b.push (.membership attr values connector negate)

/-- Adds filter text that is used unchanged. -/
def addRaw (b : QueryBuilder) (expression : String) (connector : Connector) : QueryBuilder :=
  b.push (.raw expression connector)

/-- Adds the conditions of another query as a group. -/
def addGroupOf (b child : QueryBuilder) (connector : Connector) (negate : Bool) : QueryBuilder :=
  b.push (.group child.conditions connector negate)

/-- Adds the conditions that are built on a new query as a group. -/
def addGroup (b : QueryBuilder) (build : QueryBuilder → QueryBuilder) (connector : Connector)
    (negate : Bool) : QueryBuilder :=
  b.addGroupOf (build b.newQuery) connector negate

/-- Adds one line of a batch. -/
def addBatchLine (b : QueryBuilder) : BatchLine → QueryBuilder
  | .value attr value => b.whereEquals attr value
  | .operator attr operator value => b.compareBy attr operator value .both false

/-- Adds several conditions as one group. -/
def addBatch (b : QueryBuilder) (batch : Batch) (connector : Connector) (negate : Bool) :
    QueryBuilder :=
  b.addGroup (fun child =>
    match batch with
    | .map entries =>
      entries.foldl (fun b entry => b.compare entry.1 .eq entry.2 connector false) child
    | .lines lines => lines.foldl addBatchLine child) connector negate

/-- Adds the condition that a constructor makes of an attribute and a value. -/
def whereWith (b : QueryBuilder) (attr : String) (value : FilterValue)
    (build : String → FilterValue → Condition) : QueryBuilder :=
  b.push (build attr value)

/-- **Adds a comparison whose operator is any text.**  Without an operator it is `eq`.  With a value,
this is `compareBy`.  Without one, a text that is no operator is the value, an operator that needs a
value is refused, and otherwise the condition is that the attribute has no value. -/
def addWhere (b : QueryBuilder) (attr : String) (operator : Option String)
    (value : Option FilterValue) (connector : Connector) (negate : Bool) :
    Except QueryError QueryBuilder :=
  match prepare value operator with
  | .error e => .error e
  | .ok (some value, operator) => .ok (b.compareBy attr operator value connector negate)
  | .ok (none, operator) =>
    if invalidOperator operator then
      .ok (b.compare attr .eq (.string operator) connector negate)
    else .ok (b.addPresence [attr] connector true)

/-! ## The rest of a query, and what is sent -/

/-- The query returning these attributes instead. -/
def select (b : QueryBuilder) (attributes : List String) : QueryBuilder := { b with attributes }

/-- The query returning at most this many entries. -/
def take (b : QueryBuilder) (limit : UInt32) : QueryBuilder := { b with limit }

/-- The query skipping this many entries. -/
def skip (b : QueryBuilder) (offset : UInt32) : QueryBuilder := { b with offset }

/-- The filter of the conditions. -/
def filter (b : QueryBuilder) : String := b.dialect.filter b.conditions

/-- The query as it is sent by a directory that counts entries from an offset, in a dialect. -/
def offsetQuery (b : QueryBuilder) (d : Dialect) : CompiledQuery :=
  { filter := d.filter b.conditions
    includeAttributes := d.projection b.attributes
    limit := some b.limit
    offset := some b.offset }

/-- The query as it is sent in a dialect. -/
def compileWith (b : QueryBuilder) (d : Dialect) : CompiledQuery := d.adapt (b.offsetQuery d)

/-- The query as it is sent. -/
def compile (b : QueryBuilder) : CompiledQuery := b.compileWith b.dialect

end QueryBuilder

end DirectorySearch
