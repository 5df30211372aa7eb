import DirectorySearch.Json.Written

/-!
# Compiled queries

What is sent to a directory: the filter, the attributes asked for, and how many entries from where.
A query is one JSON object; a field that is absent is left out of it.

* `CompiledQuery` — the query.
* `CompiledQuery.page` — the same query asking for one page.
* **`CompiledQuery.text`** — its JSON text, the fields in a fixed order.
* **`CompiledQuery.parse?`** — reads such a text: fields in any order, each at most once, optional ones
  missing or null, fields of other names ignored whatever they hold.  An array of the fields in order
  is read as well; its optional fields may be missing at the end.
-/

namespace DirectorySearch

/-- A query as it is sent. -/
structure CompiledQuery where
  /-- The filter; empty if every entry matches. -/
  filter : String
  /-- The attributes to return. -/
  includeAttributes : String
  /-- How many entries to return. -/
  limit : Option UInt32 := none
  /-- How many entries to skip. -/
  offset : Option UInt32 := none
  /-- How much of the tree to search. -/
  searchScope : Option String := none
  /-- The continuation token of the page asked for. -/
  cursor : Option String := none
deriving DecidableEq, Repr, Inhabited

namespace CompiledQuery

/-- The same query asking for one page: with the page's size, and with the token that continues from
the page before, if there was one. -/
def page (q : CompiledQuery) (pageSize : UInt32) (token : Option String) : CompiledQuery :=
  { q with limit := some pageSize, cursor := token }

/-- The fields that are present, by name and in order. -/
def fields (q : CompiledQuery) : List (String × Json) :=
  [("filter", .string q.filter), ("includeAttributes", .string q.includeAttributes)]
    ++ (q.limit.map fun n => ("limit", Json.integer n.toNat)).toList
    ++ (q.offset.map fun n => ("offset", Json.integer n.toNat)).toList
    ++ (q.searchScope.map fun s => ("searchScope", Json.string s)).toList
    ++ (q.cursor.map fun s => ("cursor", Json.string s)).toList

/-- The JSON text of a query. -/
def text (q : CompiledQuery) : String := (Json.object q.fields).text

/-! ## Reading a query -/

/-- A text field. -/
def readText? : Written → Option String
  | .string parts => (stringText? parts).map String.ofList
  | _ => none

/-- A count that fits 32 bits. -/
def readCount? : Written → Option UInt32
  | .number t =>
    match t.value? with
    | some (.integer (.ofNat n)) => if n < UInt32.size then some n.toUInt32 else none
    | _ => none
  | _ => none

/-- A field that may be null. -/
def readOptional? {α : Type} (read? : Written → Option α) : Written → Option (Option α)
  | .null => some none
  | w => (read? w).map some

/-- A field that may be missing or null. -/
def readMissing? {α : Type} (read? : Written → Option α) : Option Written → Option (Option α)
  | none => some none
  | some w => readOptional? read? w

/-- A query from its six fields, the optional ones possibly missing. -/
def ofFields? (filter attributes limit offset scope cursor : Option Written) :
    Option CompiledQuery := do
  return {
    filter := ← filter.bind readText?
    includeAttributes := ← attributes.bind readText?
    limit := ← readMissing? readCount? limit
    offset := ← readMissing? readCount? offset
    searchScope := ← readMissing? readText? scope
    cursor := ← readMissing? readText? cursor }

/-- The names of the fields, in order. -/
def fieldNames : List String :=
  ["filter", "includeAttributes", "limit", "offset", "searchScope", "cursor"]

/-- The members of an object with their names read; nothing if a name is no text. -/
def namedMembers? : List (List StringPart × Written) → Option (List (String × Written))
  | [] => some []
  | (key, value) :: members =>
    match stringText? key, namedMembers? members with
    | some k, some rest => some ((String.ofList k, value) :: rest)
    | _, _ => none

/-- Whether no field of a query is given twice. -/
def fieldsOnce (members : List (String × Written)) : Bool :=
  fieldNames.all fun name => (members.filter (·.1 == name)).length ≤ 1

/-- A query from a text taken apart. -/
def ofWritten? : Written → Option CompiledQuery
  | .object members => do
    let named ← namedMembers? members
    if fieldsOnce named then
      ofFields? (named.lookup "filter") (named.lookup "includeAttributes") (named.lookup "limit")
        (named.lookup "offset") (named.lookup "searchScope") (named.lookup "cursor")
    else none
  | .array items =>
    if items.length ≤ fieldNames.length then
      ofFields? items[0]? items[1]? items[2]? items[3]? items[4]? items[5]?
    else none
  | _ => none

/-- **Reads a query** from a JSON text. -/
def parse? (text : String) : Option CompiledQuery :=
  (Written.read? text.toList).bind ofWritten?

end CompiledQuery

end DirectorySearch
