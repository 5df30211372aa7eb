import DirectorySearch.Toml.Document

/-!
# Putting tables together

The sections of a document define tables, and no table may be defined twice.  A table comes into being
in one of three ways, and how it did decides what may be added to it later:

* by its own header: nothing defines it again, but headers of tables inside it may follow;
* on the way to a table inside it: its own header may still follow;
* by a dotted key: further dotted keys may add to it, but no header.

Main items:

* `Node` — a value under construction.
* `Node.Members.along`, `Node.Members.dotted` — an addition made at the end of a path.
* **`Toml.parse?`** — the value of a text.
-/

namespace DirectorySearch.Toml

/-- How a table came into being. -/
inductive Origin where
  /-- By its own header. -/
  | header
  /-- On the way to a table inside it. -/
  | passing
  /-- By a dotted key. -/
  | dottedKey
deriving DecidableEq, Repr

/-- A value under construction. -/
inductive Node where
  /-- A value that is complete. -/
  | value (v : Toml)
  /-- A table. -/
  | table (origin : Origin) (members : List (String × Node))
  /-- An array of tables, the last of which is still open. -/
  | tables (items : List (List (String × Node)))
deriving Inhabited

/-- The members of a table under construction. -/
abbrev Members := List (String × Node)

namespace Members

/-- The members with one of them replaced or added. -/
def put (ms : Members) (key : String) (node : Node) : Members :=
  if (ms.lookup key).isSome then ms.map fun m => if m.1 = key then (key, node) else m
  else ms ++ [(key, node)]

/-- An addition made at the end of a path that a header names. -/
def along (add : Members → Option Members) : List String → Members → Option Members
  | [], ms => add ms
  | key :: path, ms =>
    match ms.lookup key with
    | none => (along add path []).map fun inner => ms.put key (.table .passing inner)
    | some (.table origin inner) =>
      (along add path inner).map fun inner => ms.put key (.table origin inner)
    | some (.tables items) =>
      match items.getLast? with
      | none => none
      | some last =>
        (along add path last).map fun last => ms.put key (.tables (items.dropLast ++ [last]))
    | some (.value _) => none

/-- An addition made at the end of a path that a dotted key names: the tables on the way have no header,
and the last of them has come into being by a dotted key. -/
def dotted (add : Members → Option Members) : List String → Members → Option Members
  | [], ms => add ms
  | key :: path, ms =>
    match ms.lookup key with
    | none => (dotted add path []).map fun inner => ms.put key (.table .dottedKey inner)
    | some (.table origin inner) =>
      if origin = .header || (path.isEmpty && origin ≠ .dottedKey) then none
      else (dotted add path inner).map fun inner => ms.put key (.table origin inner)
    | some _ => none

/-- A new member; nothing if there is one of that key. -/
def insertNew (key : String) (node : Node) (ms : Members) : Option Members :=
  if (ms.lookup key).isSome then none else some (ms ++ [(key, node)])

end Members

mutual

/-- The value that a node has come to. -/
def Node.close : Node → Toml
  | .value v => v
  | .table _ ms => .table (closeMembers ms)
  | .tables items => .array (closeItems items)

/-- The values that some members have come to. -/
def closeMembers : List (String × Node) → List (String × Toml)
  | [] => []
  | (key, node) :: rest => (key, node.close) :: closeMembers rest

/-- The values that the tables of an array have come to. -/
def closeItems : List (List (String × Node)) → List Toml
  | [] => []
  | ms :: rest => .table (closeMembers ms) :: closeItems rest

end

/-- The path to the table of a key, and the key in it. -/
def cutKey? : List String → Option (List String × String)
  | [] => none
  | path@(_ :: _) => path.getLast?.map fun last => (path.dropLast, last)

/-- The members with a value given to a key. -/
def assign? (ms : Members) (key : List String) (value : Toml) : Option Members :=
  match cutKey? key with
  | none => none
  | some (path, last) => ms.dotted (Members.insertNew last (.value value)) path

mutual

/-- The value of a phrase; nothing if a table in it defines a key twice. -/
def Phrase.value? : Phrase → Option Toml
  | .scalar v => some v
  | .array items => (phraseValues? items).map .array
  | .table assignments => (tableMembers? assignments []).map fun ms => .table (closeMembers ms)

/-- The values of some phrases. -/
def phraseValues? : List Phrase → Option (List Toml)
  | [] => some []
  | item :: items =>
    match item.value?, phraseValues? items with
    | some v, some vs => some (v :: vs)
    | _, _ => none

/-- The members of a table after some assignments. -/
def tableMembers? : List (List String × Phrase) → Members → Option Members
  | [], ms => some ms
  | (key, phrase) :: rest, ms =>
    match phrase.value? with
    | none => none
    | some v =>
      match assign? ms key v with
      | none => none
      | some ms => tableMembers? rest ms

end

/-- The members of a table after the header that names one of its keys, with the assignments below. -/
def openTable (body : List Assignment) (key : String) (ms : Members) : Option Members :=
  let start : Option Members :=
    match ms.lookup key with
    | none => some []
    | some (.table .passing inner) => some inner
    | some _ => none
  (start.bind (tableMembers? body)).map fun inner => ms.put key (.table .header inner)

/-- The members of a table after the header that adds a table to an array of tables. -/
def openItem (body : List Assignment) (key : String) (ms : Members) : Option Members :=
  let earlier : Option (List Members) :=
    match ms.lookup key with
    | none => some []
    | some (.tables items) => some items
    | some _ => none
  match earlier, tableMembers? body [] with
  | some items, some item => some (ms.put key (.tables (items ++ [item])))
  | _, _ => none

/-- The members of a document after a section. -/
def addSection (ms : Members) (s : Section) : Option Members :=
  match s.header with
  | .root => tableMembers? s.body ms
  | .table path =>
    (cutKey? path).bind fun (path, key) => ms.along (openTable s.body key) path
  | .item path =>
    (cutKey? path).bind fun (path, key) => ms.along (openItem s.body key) path

/-- **The value of a text**, which is always a table. -/
def parse? (text : String) : Option Toml := do
  let sections ← readDocument? text.toList
  let ms ← sections.foldlM addSection []
  return .table (closeMembers ms)

end DirectorySearch.Toml
