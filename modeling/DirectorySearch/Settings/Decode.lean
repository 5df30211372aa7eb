import DirectorySearch.Settings.Basic
import DirectorySearch.Toml.Value

/-!
# Settings from a configuration value

A group of settings is a table with known keys.  It may also be an array that holds the values in order;
then the last ones may be missing if there is something that holds instead, and what comes after them
does not count.

* `RecordFields`, `recordFields?` — a value taken as a group with known keys.
* `choice?` — one of several names.  It may also stand as the only key of a table, over an empty value.
* **`Settings.ofToml?`** — the settings; nothing if a key is unknown, a value is of the wrong kind or a
  setting is missing for which nothing else holds.
-/

namespace DirectorySearch

/-! ## Groups and values -/

/-- The values of a group by key. -/
abbrev RecordFields := String → Option Toml

/-- A value taken as a group with these keys. -/
def recordFields? (keys : List String) : Toml → Option RecordFields
  | .table members =>
    if members.all fun member => keys.contains member.1 then some fun key => members.lookup key
    else none
  | .array items => some fun key => (keys.idxOf? key).bind (items[·]?)
  | _ => none

/-- A setting for which something holds where it is missing. -/
def settingOr {α : Type} (standard : α) (read? : Toml → Option α) : Option Toml → Option α
  | none => some standard
  | some value => read? value

/-- A setting that may be missing. -/
def optionalSetting {α : Type} (read? : Toml → Option α) : Option Toml → Option (Option α)
  | none => some none
  | some value => (read? value).map some

/-- A text. -/
def textSetting? : Toml → Option String
  | .string s => some s
  | _ => none

/-- A truth value. -/
def flagSetting? : Toml → Option Bool
  | .bool b => some b
  | _ => none

/-- A natural number below a bound. -/
def numberSetting? (bound : Nat) : Toml → Option Nat
  | .integer (.ofNat n) => if n < bound then some n else none
  | _ => none

/-- One of several names. -/
def choice? {α : Type} (ofName? : String → Option α) : Toml → Option α
  | .string s => ofName? s
  | .table [(key, .table [])] => ofName? key
  | .table [(key, .array [])] => ofName? key
  | _ => none

/-! ## The groups of a configuration -/

/-- The credentials. -/
def Credentials.ofToml? (value : Toml) : Option Credentials := do
  let field ← recordFields? ["username", "password"] value
  return {
    username := ← (field "username").bind textSetting?
    password := ← settingOr "" textSetting? (field "password") }

/-- How a directory is reached. -/
def DriverSettings.ofToml? (value : Toml) : Option DriverSettings := do
  let field ← recordFields? ["url", "method", "provider", "timeout_secs", "auth"] value
  return {
    url := ← (field "url").bind textSetting?
    method := ← settingOr .get (choice? HttpMethod.ofName?) (field "method")
    provider := ← settingOr .scim (choice? Provider.ofName?) (field "provider")
    timeoutSeconds := ← settingOr 30 (numberSetting? UInt64.size) (field "timeout_secs")
    credentials := ← optionalSetting Credentials.ofToml? (field "auth") }

/-- How searches are read page by page. -/
def Pagination.ofToml? (value : Toml) : Option Pagination := do
  let standard : Pagination := {}
  let field ← recordFields? ["page_size", "cursor_pointer", "size_pointer"] value
  let pageSize? (value : Toml) : Option UInt32 := (numberSetting? UInt32.size value).map Nat.toUInt32
  return {
    pageSize := ← settingOr standard.pageSize pageSize? (field "page_size")
    cursorPointer := ← settingOr standard.cursorPointer textSetting? (field "cursor_pointer")
    sizePointer := ← settingOr standard.sizePointer textSetting? (field "size_pointer") }

/-- What is logged. -/
def LoggingSettings.ofToml? (value : Toml) : Option LoggingSettings := do
  let field ← recordFields? ["level", "format", "timestamps", "file_line", "filter"] value
  return {
    level := ← settingOr .info (choice? LogLevel.ofName?) (field "level")
    format := ← settingOr .compact (choice? LogFormat.ofName?) (field "format")
    timestamps := ← settingOr true flagSetting? (field "timestamps")
    fileLine := ← settingOr false flagSetting? (field "file_line")
    filter := ← optionalSetting textSetting? (field "filter") }

/-- The group around what is logged. -/
def LoggingSettings.ofObservability? (value : Toml) : Option LoggingSettings := do
  let field ← recordFields? ["logging"] value
  settingOr {} LoggingSettings.ofToml? (field "logging")

/-- **The settings of a configuration value.** -/
def Settings.ofToml? (value : Toml) : Option Settings := do
  let field ← recordFields? ["name", "driver", "pagination", "observability"] value
  return {
    name := ← settingOr "default" textSetting? (field "name")
    driver := ← (field "driver").bind DriverSettings.ofToml?
    pagination := ← settingOr {} Pagination.ofToml? (field "pagination")
    logging := ← settingOr {} LoggingSettings.ofObservability? (field "observability") }

end DirectorySearch
