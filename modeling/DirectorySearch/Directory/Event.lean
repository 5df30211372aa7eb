import DirectorySearch.Directory.Error
import DirectorySearch.Directory.Provider
import DirectorySearch.Http.Method
import DirectorySearch.Text.Case
import DirectorySearch.Text.Diagnostic

/-!
# Log events

What a connection does is reported as events.  An event says what happened; `Event.record` says how it
is logged: at which level, under which target, with which fields.

* `LogLevel` — how important an event is.
* `Event` — what happened.
* `Event.record` — the line of the log.
-/

namespace DirectorySearch

/-- How important an event is, the most important last. -/
inductive LogLevel where
  /-- Every detail. -/
  | trace
  /-- Details for finding faults. -/
  | debug
  /-- What normally happens. -/
  | info
  /-- Something unexpected. -/
  | warn
  /-- A failure. -/
  | error
deriving DecidableEq, Repr, Inhabited

namespace LogLevel

/-- All levels. -/
def all : List LogLevel := [.trace, .debug, .info, .warn, .error]

/-- The name of a level in a configuration. -/
def name : LogLevel → String
  | .trace => "trace"
  | .debug => "debug"
  | .info => "info"
  | .warn => "warn"
  | .error => "error"

/-- The name of a level in a log. -/
def label : LogLevel → String
  | .trace => "TRACE"
  | .debug => "DEBUG"
  | .info => "INFO"
  | .warn => "WARN"
  | .error => "ERROR"

/-- How much is logged when events of this level are: one for errors alone, five for all. -/
def detail : LogLevel → Nat
  | .error => 1
  | .warn => 2
  | .info => 3
  | .debug => 4
  | .trace => 5

/-- The level with exactly this name. -/
def ofName? (name : String) : Option LogLevel := all.find? fun level => level.name == name

end LogLevel

/-- What happened. -/
inductive Event where
  /-- A connection was made from a configuration. -/
  | connected (connection url : String) (provider : Provider)
  /-- A reply came in. -/
  | replied (method : HttpMethod) (url : String) (status : Nat)
  /-- A query was run. -/
  | executed (connection filter : String) (cursor : Option String) (elapsed : Binary64)
      (pretend : Bool)
  /-- A cursor read a page. -/
  | pageFetched (connection : String) (page entries seen budget : Nat) (hasMore : Bool)
  /-- A cursor came to its end. -/
  | cursorFinished (connection : String) (pages : Nat) (tokenMissing : Bool)
  /-- A cursor met an error. -/
  | cursorStopped (connection : String) (page : Nat) (error : String)
  /-- A dry run was left before its end. -/
  | dryRunInterrupted
deriving DecidableEq, Repr

/-- A line of the log. -/
structure LogRecord where
  /-- How important it is. -/
  level : LogLevel
  /-- Which part of the program it comes from. -/
  target : String
  /-- Its fields. -/
  fields : List (String × Json)

namespace Event

/-- The target of events of a connection. -/
def connectionTarget : String := "scim_query::connection"

/-- The target of events of the transport. -/
def transportTarget : String := "scim_query::connection::transport"

/-- The target of events of a cursor. -/
def cursorTarget : String := "scim_query::connection::cursor"

/-- The number of something. -/
def count (n : Nat) : Json := .integer n

/-- How an event is logged. -/
def record : Event → LogRecord
  | .connected connection url provider =>
    ⟨.debug, connectionTarget,
      [("message", .string "Created directory connection"), ("connection", .string connection),
        ("url", .string url), ("provider", .string provider.label)]⟩
  | .replied method url status =>
    ⟨.debug, transportTarget,
      [("message", .string "Directory request completed"), ("method", .string method.label),
        ("url", .string url), ("status", count status)]⟩
  | .executed connection filter cursor elapsed pretend =>
    ⟨.debug, connectionTarget,
      [("message", .string "Executed directory query"), ("connection", .string connection),
        ("filter", .string filter), ("cursor", .string (diagnosticOption cursor)),
        ("elapsed_ms", .float elapsed), ("pretend", .bool pretend)]⟩
  | .pageFetched connection page entries seen budget hasMore =>
    ⟨.debug, cursorTarget,
      [("message", .string "Fetched directory page"), ("connection", .string connection),
        ("page", count page), ("entries", count entries), ("seen", count seen),
        ("budget", count budget), ("has_more", .bool hasMore)]⟩
  | .cursorFinished connection pages tokenMissing =>
    ⟨.debug, cursorTarget,
      [("message", .string "Cursor finished"), ("connection", .string connection),
        ("pages", count pages),
        ("reason", .string (if tokenMissing then "no continuation token" else "budget exceeded"))]⟩
  | .cursorStopped connection page error =>
    ⟨.debug, cursorTarget,
      [("message", .string "Cursor stopped on error"), ("connection", .string connection),
        ("page", count page), ("error", .string error)]⟩
  | .dryRunInterrupted =>
    ⟨.debug, connectionTarget, [("message", .string "Pretend interrupted, restoring query log")]⟩

end Event

end DirectorySearch
