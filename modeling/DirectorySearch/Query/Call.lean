import DirectorySearch.Query.Builder

/-!
# Building a query call by call

A query is built by calls on it, and what goes into a group is built by calls on a query of its own.
A call is data here, so that a law about every way to build a query can be stated about every list of
calls.

* `BuilderCall` — one call; `Shorthand` — the comparisons that have calls of their own.
* `QueryBuilder.perform`, **`QueryBuilder.performAll`** — the errors that calls meet, those inside
  groups included, and the query after them.

A call that fails leaves the query as it was, and the calls behind it are made all the same.
-/

namespace DirectorySearch

/-- A comparison that has calls of its own. -/
inductive Shorthand where
  | equals
  | contains
  | startsWith
  | endsWith
  | greaterThan
  | greaterThanOrEqualTo
  | lessThan
  | lessThanOrEqualTo
deriving DecidableEq, Repr, Inhabited

/-- How it compares. -/
def Shorthand.operator : Shorthand → Operator
  | .equals => .eq
  | .contains => .co
  | .startsWith => .sw
  | .endsWith => .ew
  | .greaterThan => .gt
  | .greaterThanOrEqualTo => .ge
  | .lessThan => .lt
  | .lessThanOrEqualTo => .le

/-- One call on a query under construction. -/
inductive BuilderCall where
  /-- Adds one of the comparisons that have calls of their own. -/
  | shorthand (test : Shorthand) (attr : String) (value : FilterValue) (connector : Connector)
      (negate : Bool)
  /-- Adds a comparison, by an operator of any text or by none, with a value or without. -/
  | addWhere (attr : String) (operator : Option String) (value : Option FilterValue)
      (connector : Connector) (negate : Bool)
  /-- Adds a comparison with a value by an operator of any text. -/
  | compareBy (attr operator : String) (value : FilterValue) (connector : Connector) (negate : Bool)
  /-- Adds, for each attribute, the test that it has a value. -/
  | addPresence (attributes : List String) (connector : Connector) (negate : Bool)
  /-- Adds the test that an attribute equals one of several values. -/
  | addMembership (attr : String) (values : List FilterValue) (connector : Connector)
      (negate : Bool)
  /-- Adds filter text that is used unchanged. -/
  | addRaw (expression : String) (connector : Connector)
  /-- Adds a group of what some calls put into a new query in the same dialect. -/
  | addGroup (calls : List BuilderCall) (connector : Connector) (negate : Bool)
  /-- Adds a group of what some calls put into a new query in a dialect of its own. -/
  | addGroupOf (dialect : Dialect) (calls : List BuilderCall) (connector : Connector)
      (negate : Bool)
  /-- Adds several conditions as one group. -/
  | addBatch (batch : Batch) (connector : Connector) (negate : Bool)
  /-- Adds the condition that a constructor makes of an attribute and a value. -/
  | whereWith (attr : String) (value : FilterValue) (build : String → FilterValue → Condition)
  /-- Asks for these attributes instead. -/
  | select (attributes : List String)
  /-- Asks for at most this many entries. -/
  | take (limit : UInt32)
  /-- Skips this many entries. -/
  | skip (offset : UInt32)
  /-- Starts over with a new query in the same dialect. -/
  | newQuery
deriving Inhabited

namespace QueryBuilder

mutual

/-- The errors that a call meets, and the query after it. -/
def perform (b : QueryBuilder) : BuilderCall → List QueryError × QueryBuilder
  | .shorthand test attr value connector negate =>
    ([], b.compare attr test.operator value connector negate)
  | .addWhere attr operator value connector negate =>
    match b.addWhere attr operator value connector negate with
    | .ok b => ([], b)
    | .error e => ([e], b)
  | .compareBy attr operator value connector negate =>
    ([], b.compareBy attr operator value connector negate)
  | .addPresence attributes connector negate => ([], b.addPresence attributes connector negate)
  | .addMembership attr values connector negate =>
    ([], b.addMembership attr values connector negate)
  | .addRaw expression connector => ([], b.addRaw expression connector)
  | .addGroup calls connector negate =>
    -- the calls are made once, on the query that the group would be built on
    let (errors, child) := performAll b.newQuery calls
    (errors, b.addGroup (fun _ => child) connector negate)
  | .addGroupOf dialect calls connector negate =>
    let (errors, child) := performAll (new dialect) calls
    (errors, b.addGroupOf child connector negate)
  | .addBatch batch connector negate => ([], b.addBatch batch connector negate)
  | .whereWith attr value build => ([], b.whereWith attr value build)
  | .select attributes => ([], b.select attributes)
  | .take limit => ([], b.take limit)
  | .skip offset => ([], b.skip offset)
  | .newQuery => ([], b.newQuery)

/-- **The errors that calls meet, and the query after them.** -/
def performAll (b : QueryBuilder) : List BuilderCall → List QueryError × QueryBuilder
  | [] => ([], b)
  | call :: calls =>
    let (errors, b) := perform b call
    let (more, b) := performAll b calls
    (errors ++ more, b)

end

end QueryBuilder

end DirectorySearch
