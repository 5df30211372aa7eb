import DirectorySearch.Settings.Decode
import DirectorySearch.Settings.Expansion
import DirectorySearch.Toml.Table

/-!
# Loading settings

A configuration is a text.  Its references to the environment are replaced, the result is read as TOML,
taken as settings, and checked.

* `SettingsError` — what can go wrong, and the wording.
* `Settings.problem?` — the first thing that is wrong with settings that were read.
* **`Settings.load`** — settings from a text; `Settings.loadFile` — from what reading a file gave.
-/

namespace DirectorySearch

/-! ## Errors -/

/-- Why a file cannot be read. -/
inductive FileError where
  /-- There is none of that name. -/
  | notFound
  /-- The name is that of a directory. -/
  | isDirectory
  /-- The name leads through a file. -/
  | notDirectory
  /-- The file is no text. -/
  | notText
  /-- Anything else. -/
  | other (reason : String)
deriving DecidableEq, Repr

/-- The wording of the error. -/
def FileError.message : FileError → String
  | .notFound => "No such file or directory (os error 2)"
  | .isDirectory => "Is a directory (os error 21)"
  | .notDirectory => "Not a directory (os error 20)"
  | .notText => "stream did not contain valid UTF-8"
  | .other reason => reason

/-- Why there are no settings. -/
inductive SettingsError where
  /-- The file cannot be read. -/
  | unreadable (path : String) (error : FileError)
  /-- The text is no configuration. -/
  | malformed
  /-- A variable of the environment has no value. -/
  | variableNotFound (name : String)
  /-- A setting makes no sense. -/
  | invalid (reason : String)
deriving DecidableEq, Repr

/-- The wording of the error. -/
def SettingsError.message : SettingsError → String
  | .unreadable path error => "Failed to read config file " ++ path ++ ": " ++ error.message
  | .malformed => "Failed to parse config: the text is no configuration"
  | .variableNotFound name => "Environment variable not found: " ++ name
  | .invalid reason => "Configuration validation error: " ++ reason

/-! ## Checks -/

/-- What is wrong with the URL of a directory. -/
def urlProblem? (url : String) : Option String :=
  match Url.parse url with
  | .error e => some ("invalid url '" ++ url ++ "': " ++ e.message)
  | .ok u =>
    if u.scheme = "http" || u.scheme = "https" then none
    else some ("url must use http or https, got '" ++ u.scheme ++ "'")

/-- What is wrong with the way a directory is reached. -/
def DriverSettings.problem? (d : DriverSettings) : Option String :=
  match urlProblem? d.url with
  | some problem => some problem
  | none =>
    if d.timeoutSeconds = 0 then some "timeout_secs must be greater than 0"
    else if d.credentials.any (·.username = "") then some "auth.username must not be empty"
    else none

/-- What is wrong with a pointer. -/
def pointerProblem? (name pointer : String) : Option String :=
  if pointer = "" || pointer.toList.head? = some '/' then none
  else some (name ++ " must be a JSON pointer starting with '/', got '" ++ pointer ++ "'")

/-- What is wrong with the way searches are read. -/
def Pagination.problem? (p : Pagination) : Option String :=
  if p.pageSize = 0 then some "page_size must be greater than 0"
  else
    pointerProblem? "cursor_pointer" p.cursorPointer <|> pointerProblem? "size_pointer" p.sizePointer

namespace Settings

/-- The first thing that is wrong with settings. -/
def problem? (s : Settings) : Option String :=
  if (trim s.name.toList).isEmpty then some "name must not be empty"
  else
    (s.driver.problem?.map ("driver: " ++ ·)) <|> (s.pagination.problem?.map ("pagination: " ++ ·))

/-- The settings if nothing is wrong with them. -/
def check (s : Settings) : Except SettingsError Settings :=
  match s.problem? with
  | some reason => .error (.invalid reason)
  | none => .ok s

/-- **Settings from a text.** -/
def load (env : Environment) (text : String) : Except SettingsError Settings :=
  match expand env text.toList with
  | .error name => .error (.variableNotFound name)
  | .ok expanded =>
    match (Toml.parse? (String.ofList expanded)).bind ofToml? with
    | none => .error .malformed
    | some s => s.check

/-- Settings from what reading a file gave. -/
def loadFile (env : Environment) (path : String) (content : Except FileError (List UInt8)) :
    Except SettingsError Settings :=
  match content with
  | .error e => .error (.unreadable path e)
  | .ok bytes =>
    match decodeStrict? bytes with
    | none => .error (.unreadable path .notText)
    | some text => load env (String.ofList text)

end Settings

end DirectorySearch
