import DirectorySearch.CommandLine.Arguments
import DirectorySearch.Directory.Cursor
import DirectorySearch.Logging.Filter
import DirectorySearch.Logging.Line
import DirectorySearch.Settings.Load

/-!
# Running the program

What the program does is a function of what it finds: its arguments, the environment, the files, and what
the network brings back.

* `Surroundings` — what it finds.
* `Report` — what it does: what it prints, which requests it makes, what it logs, and how it ends.
* **`search`**, `dryRun`, `check` — the commands.
* **`run`** — the program.

The entries of a search are printed as they come in, so an error late in a search does not take back what
was printed before.
-/

namespace DirectorySearch.CommandLine

/-- What the program finds. -/
structure Surroundings where
  /-- The variables of the environment. -/
  environment : Environment := []
  /-- What reading a file gives. -/
  fileContent : String → Except FileError (List UInt8)
  /-- What the network will bring back for the requests, in order. -/
  deliveries : List Delivery := []

/-- What the program does. -/
structure Report where
  /-- The code it ends with. -/
  exitCode : Nat := 0
  /-- The lines it prints. -/
  lines : List String := []
  /-- The error that ended it. -/
  error : Option String := none
  /-- The requests it makes. -/
  requests : List Request := []
  /-- What it logs. -/
  log : List LogRecord := []
  /-- How it logs. -/
  logging : LoggingSettings := {}

namespace Report

/-- A report of an error. -/
def failure (message : String) : Report := { exitCode := 1, error := some ("Error: " ++ message) }

/-- The lines of the log, given the time. -/
def logLines (r : Report) (time : String) : List String :=
  r.log.map (LogRecord.line r.logging.format (if r.logging.timestamps then some time else none))

end Report

/-- The name and the version of the program. -/
def versionLine : String := "scim-query 0.1.0"

/-- How to use the program. -/
def usageLines : List String :=
  ["Query SCIM 2.0 directories",
    "",
    "Usage: scim-query [-c <CONFIG>] search [-w <ATTRIBUTE=VALUE>]... [--raw <FILTER>]",
    "                  [-a <ATTRIBUTES>]... [-l <LIMIT>] [--pretend]",
    "       scim-query [-c <CONFIG>] check"]

/-- How many entries are printed if nothing is asked for. -/
def defaultLimit : UInt32 := 100

/-! ## Commands -/

/-- The query of a search. -/
def query (request : SearchRequest) (b : QueryBuilder) : QueryBuilder :=
  let b := request.conditions.foldl (fun b c => b.whereEquals c.1 (.string c.2)) b
  let b := request.raw.elim b fun raw => b.addRaw raw .both
  let b := if request.attributes.isEmpty then b else b.select request.attributes
  b.take (request.limit.getD defaultLimit)

/-- The lines of the entries up to the first error, and that error. -/
def entryLines : List (Except ConnectionError Json) → List String × Option ConnectionError
  | [] => ([], none)
  | .error e :: _ => ([], some e)
  | .ok entry :: rest =>
    let (lines, e) := entryLines rest
    (entry.text :: lines, e)

/-- What a connection logs, as far as the settings ask for it. -/
def logged (env : Environment) (s : Settings) (c : Connection) : List LogRecord :=
  (c.events.map Event.record).filter (LogFilter.ofSettings env s.logging).allows

/-- **Searches the directory**: prints the entries that match, at most as many as the limit says. -/
def search (around : Surroundings) (s : Settings) (request : SearchRequest) : Report :=
  let c := s.connect around.deliveries
  let b := query request c.query
  let (outcomes, _, c) := (b.cursor c).take c b.limit.toNat
  let (lines, error) := entryLines outcomes
  { exitCode := if error.isSome then 1 else 0
    lines
    error := error.map fun e => "Error: " ++ e.message
    requests := s.endpoint.requests c.sent
    log := logged around.environment s c
    logging := s.logging }

/-- Prints the queries of a search instead of sending them. -/
def dryRun (around : Surroundings) (s : Settings) (request : SearchRequest) : Report :=
  let c := s.connect around.deliveries
  let b := query request c.query
  let (guard, c) := c.enterDryRun
  let (_, _, c) := (b.cursor c).collect c
  let (entries, c) := c.leaveDryRun guard
  { lines := entries.map fun e => e.query.text
    requests := s.endpoint.requests c.sent
    log := logged around.environment s c
    logging := s.logging }

/-- Says that the configuration is in order. -/
def check (s : Settings) : Report :=
  { lines := ["Configuration OK: " ++ s.name ++ " (" ++ s.driver.url ++ ")"] }

/-! ## The program -/

/-- A command with the path of the configuration. -/
def runCommand (around : Surroundings) (command : Command) (path : String) : Report :=
  match Settings.loadFile around.environment path (around.fileContent path) with
  | .error e => .failure e.message
  | .ok s =>
    match command with
    | .check => check s
    | .search request => if request.pretend then dryRun around s request else search around s request

/-- **The program.** -/
def run (around : Surroundings) (args : List String) : Report :=
  match Invocation.parse args with
  | .run command config => runCommand around command (config.getD Invocation.defaultConfig)
  | .help => { lines := usageLines }
  | .version => { lines := [versionLine] }
  | .misuse => { exitCode := 2, error := some "Error: the arguments are not understood" }

end DirectorySearch.CommandLine
