/-!
# TOML values

* `Toml` — what a configuration text stands for.

Of floating point numbers and of dates only their kind is kept, because no setting is one.
-/

namespace DirectorySearch

/-- A value of a configuration text. -/
inductive Toml where
  /-- A string. -/
  | string (s : String)
  /-- An integer of any size. -/
  | integer (n : Int)
  /-- A truth value. -/
  | bool (b : Bool)
  /-- A floating point number. -/
  | float
  /-- A date, a time, or both. -/
  | datetime
  /-- An array. -/
  | array (items : List Toml)
  /-- A table, each key once. -/
  | table (members : List (String × Toml))
deriving Inhabited

end DirectorySearch
