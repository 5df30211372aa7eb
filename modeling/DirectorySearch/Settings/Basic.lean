import DirectorySearch.Directory.Event
import DirectorySearch.Http.Request

/-!
# Settings

What a configuration says: how a directory is reached, how its searches are read page by page, and what
is logged.

* `Settings` — everything, with what holds where the configuration is silent.
* `Settings.profile`, `Settings.endpoint` — the two things a connection is made from.
-/

namespace DirectorySearch

/-- How log lines are written. -/
inductive LogFormat where
  /-- Over several lines. -/
  | pretty
  /-- On one line. -/
  | compact
  /-- As JSON. -/
  | json
deriving DecidableEq, Repr, Inhabited

namespace LogFormat

/-- All formats. -/
def all : List LogFormat := [.pretty, .compact, .json]

/-- The name of a format in a configuration. -/
def name : LogFormat → String
  | .pretty => "pretty"
  | .compact => "compact"
  | .json => "json"

/-- The format with exactly this name. -/
def ofName? (name : String) : Option LogFormat := all.find? fun format => format.name == name

end LogFormat

/-- How a directory is reached. -/
structure DriverSettings where
  /-- The URL that is searched. -/
  url : String
  /-- How queries are sent. -/
  method : HttpMethod := .get
  /-- What kind of directory it is. -/
  provider : Provider := .scim
  /-- How many seconds a request may take. -/
  timeoutSeconds : Nat := 30
  /-- Who asks. -/
  credentials : Option Credentials := none
deriving DecidableEq, Repr

/-- What is logged. -/
structure LoggingSettings where
  /-- The level from which on events are logged. -/
  level : LogLevel := .info
  /-- How log lines are written. -/
  format : LogFormat := .compact
  /-- Whether a log line tells the time. -/
  timestamps : Bool := true
  /-- Whether a log line tells where in the program it comes from. -/
  fileLine : Bool := false
  /-- Which events are logged, in detail. -/
  filter : Option String := none
deriving DecidableEq, Repr

/-- What a configuration says. -/
structure Settings where
  /-- The name of the connection. -/
  name : String := "default"
  /-- How the directory is reached. -/
  driver : DriverSettings
  /-- How searches are read page by page. -/
  pagination : Pagination := {}
  /-- What is logged. -/
  logging : LoggingSettings := {}
deriving DecidableEq, Repr

namespace Settings

/-- The settings of the connection. -/
def profile (s : Settings) : Profile := .ofProvider s.name s.driver.provider s.pagination

/-- Where and how the directory is asked. -/
def endpoint (s : Settings) : Endpoint := ⟨s.driver.url, s.driver.method, s.driver.credentials⟩

/-- A new connection, over a network that will bring back some deliveries. -/
def connect (s : Settings) (deliveries : List Delivery) : Connection :=
  { profile := s.profile
    transport := s.endpoint.transport deliveries
    events := [.connected s.name s.driver.url s.driver.provider] }

end Settings

end DirectorySearch
