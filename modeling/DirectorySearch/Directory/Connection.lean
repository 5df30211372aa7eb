import DirectorySearch.Directory.QueryLog
import DirectorySearch.Directory.Transport
import DirectorySearch.Query.Builder

/-!
# Connections

A connection ties a transport to the dialect and the entry layout of a directory, and remembers what
it did.  Every operation takes a connection and gives back the connection afterwards; handles on one
connection share it, so there is only the one value.

* `Connection` — the settings, the transport, the queries sent so far, the query log, whether a dry
  run is on, and the events.
* **`Connection.run`** — runs one query.  During a dry run nothing is sent and the reply is an empty
  array.
* `select`, `selectOne`, and the queries of a builder: `get`, `getWithAttributes`, `first`, `find`.
* `enterDryRun`, `leaveDryRun` — the two ends of a dry run.  The guard that the first gives holds the
  log as it was; the second puts it back and gives what was logged in between.
-/

namespace DirectorySearch

/-- The settings of a connection, which never change. -/
structure Profile where
  /-- Its name. -/
  name : String
  /-- The dialect in which the directory is asked. -/
  dialect : Dialect
  /-- Where the entries of its replies stand. -/
  layout : EntryLayout
  /-- How searches are read page by page. -/
  pagination : Pagination
  /-- How long a query takes, in milliseconds. -/
  stopwatch : CompiledQuery → Binary64 := fun _ => Binary64.zero false

namespace Profile

/-- The settings for a kind of directory. -/
def ofProvider (name : String) (provider : Provider) (pagination : Pagination) : Profile :=
  { name, dialect := provider.dialect, layout := provider.layout, pagination }

end Profile

/-- A connection to a directory. -/
structure Connection where
  /-- Its settings. -/
  profile : Profile
  /-- The replies to come. -/
  transport : Transport
  /-- The queries sent so far, the earliest first. -/
  sent : List CompiledQuery := []
  /-- The query log. -/
  log : QueryLog := {}
  /-- Whether a dry run is on. -/
  pretending : Bool := false
  /-- What happened so far, the earliest first. -/
  events : List Event := []

namespace Connection

/-- The connection with one more event. -/
def note (c : Connection) (event : Event) : Connection := { c with events := c.events ++ [event] }

/-- A new query in the dialect of the connection. -/
def query (c : Connection) : QueryBuilder := .new c.profile.dialect

/-- The connection after a query has been answered: reported and logged. -/
def executed (c : Connection) (q : CompiledQuery) : Connection :=
  { c with
    events := c.events ++
      [.executed c.profile.name q.filter q.cursor (c.profile.stopwatch q) c.pretending]
    log := c.log.record q (c.profile.stopwatch q) }

/-- The connection after a query has been sent and the transport has given its reply. -/
def sending (c : Connection) (q : CompiledQuery) : Reply Json × Connection :=
  let (reply, transport) := c.transport.send q
  (reply, { c with transport, sent := c.sent ++ [q], events := c.events ++ reply.events })

/-- **Runs one query.**  A query that fails is not logged. -/
def run (c : Connection) (q : CompiledQuery) : Except ConnectionError Json × Connection :=
  if c.pretending then (.ok (.array []), c.executed q)
  else
    let (reply, c) := c.sending q
    match reply.outcome with
    | .ok answer => (.ok answer, c.executed q)
    | .error e => (.error (.transport e), c)

/-- Runs a query and gives its entries. -/
def select (c : Connection) (q : CompiledQuery) : Except ConnectionError (List Json) × Connection :=
  let (answer, c) := c.run q
  (answer.map c.profile.layout.entries, c)

/-- Runs a query and gives the first of its entries. -/
def selectOne (c : Connection) (q : CompiledQuery) :
    Except ConnectionError (Option Json) × Connection :=
  let (answer, c) := c.select q
  (answer.map List.head?, c)

/-! ## The query log -/

/-- Switches the query log on. -/
def enableLog (c : Connection) : Connection := { c with log := c.log.setEnabled true }

/-- Switches the query log off; its entries stay. -/
def disableLog (c : Connection) : Connection := { c with log := c.log.setEnabled false }

/-- Empties the query log. -/
def flushLog (c : Connection) : Connection := { c with log := c.log.flush }

end Connection

/-! ## Dry runs -/

/-- What a dry run has to put back when it ends. -/
structure DryRun where
  /-- Whether the query log was on. -/
  wasLogging : Bool
  /-- The entries it had. -/
  previous : List LoggedQuery
deriving DecidableEq, Repr

namespace Connection

/-- Starts a dry run: the log is switched on and emptied, and from now on nothing is sent. -/
def enterDryRun (c : Connection) : DryRun × Connection :=
  (⟨c.log.enabled, c.log.entries⟩, { c with log := ⟨true, []⟩, pretending := true })

/-- Ends a dry run: gives what was logged and puts the log back as it was when the dry run started. -/
def leaveDryRun (c : Connection) (guard : DryRun) : List LoggedQuery × Connection :=
  (c.log.entries, { c with log := ⟨guard.wasLogging, guard.previous⟩, pretending := false })

end Connection

/-! ## Running the query of a builder -/

namespace QueryBuilder

/-- The entries that match. -/
def get (b : QueryBuilder) (c : Connection) : Except ConnectionError (List Json) × Connection :=
  c.select b.compile

/-- The entries that match, with these attributes if the query asks for every attribute. -/
def getWithAttributes (b : QueryBuilder) (attributes : List String) (c : Connection) :
    Except ConnectionError (List Json) × Connection :=
  if b.attributes = ["*"] then (b.select attributes).get c else b.get c

/-- The first entry that matches; only one is asked for. -/
def first (b : QueryBuilder) (c : Connection) : Except ConnectionError (Option Json) × Connection :=
  let (answer, c) := (b.take 1).get c
  (answer.map List.head?, c)

/-- The first entry that matches and has this user identifier. -/
def find (b : QueryBuilder) (uid : String) (c : Connection) :
    Except ConnectionError (Option Json) × Connection :=
  (b.whereEquals "uid" (.string uid)).first c

end QueryBuilder

end DirectorySearch
