import DirectorySearch.Filter.Dialect
import DirectorySearch.Json.Pointer

/-!
# Kinds of directories

A directory is of one of two kinds.  The kind decides the dialect in which it is asked and where the
entries stand in its replies.

* `Provider` — the kinds.
* `EntryLayout`, **`EntryLayout.entries`** — where the entries of a reply are, and what they are.
* `Pagination` — the settings for reading a search page by page.
-/

namespace DirectorySearch

/-! ## Where entries are -/

/-- Where the entries of a reply stand. -/
inductive EntryLayout where
  /-- The reply is the list of entries. -/
  | plain
  /-- The entries are embedded in an object. -/
  | embedded
deriving DecidableEq, Repr, Inhabited

/-- The entries that a value stands for: an array is the list of its items, null is no entry, and any
other value is itself the only entry. -/
def entryList : Json → List Json
  | .null => []
  | .array items => items
  | other => [other]

/-- **The entries of a reply.** -/
def EntryLayout.entries : EntryLayout → Json → List Json
  | .plain, reply => entryList reply
  | .embedded, reply => entryList ((reply.pointer? "/_embedded/entries").getD .null)

/-! ## The kinds -/

/-- The kind of a directory. -/
inductive Provider where
  /-- A standard directory. -/
  | scim
  /-- A directory with the interface of PingDirectory. -/
  | pingDirectory
deriving DecidableEq, Repr, Inhabited

namespace Provider

/-- All kinds. -/
def all : List Provider := [.scim, .pingDirectory]

/-- The name of a kind in a configuration. -/
def name : Provider → String
  | .scim => "scim"
  | .pingDirectory => "ping_directory"

/-- The name of a kind in a log. -/
def label : Provider → String
  | .scim => "Scim"
  | .pingDirectory => "PingDirectory"

/-- The kind with exactly this name. -/
def ofName? (name : String) : Option Provider := all.find? fun p => p.name == name

/-- The dialect in which a directory is asked. -/
def dialect : Provider → Dialect
  | .scim => .scim
  | .pingDirectory => .pingDirectory

/-- Where the entries of its replies stand. -/
def layout : Provider → EntryLayout
  | .scim => .plain
  | .pingDirectory => .embedded

end Provider

/-! ## Pages -/

/-- How a search is read page by page. -/
structure Pagination where
  /-- Entries asked for in one page. -/
  pageSize : UInt32 := 100
  /-- Where a reply holds the token that continues the search; empty if nowhere. -/
  cursorPointer : String := "/_links/next/data/cursor"
  /-- Where a reply holds the number of its entries; empty if nowhere. -/
  sizePointer : String := "/size"
deriving DecidableEq, Repr, Inhabited

end DirectorySearch
