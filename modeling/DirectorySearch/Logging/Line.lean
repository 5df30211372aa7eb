import DirectorySearch.Settings.Basic

/-!
# Log lines

* **`LogRecord.line`** — an event as a line of the log, in the format that the settings ask for, with the
  time in front if it is wanted.
-/

namespace DirectorySearch.LogRecord

/-- The text of a field. -/
def fieldText : Json → String
  | .string s => s
  | other => other.text

/-- The fields other than the message, each with its name. -/
def detailText (r : LogRecord) : String :=
  String.join ((r.fields.filter (·.1 ≠ "message")).map fun field =>
    " " ++ field.1 ++ "=" ++ fieldText field.2)

/-- The message. -/
def message (r : LogRecord) : String := ((r.fields.lookup "message").map fieldText).getD ""

/-- An event as a JSON text. -/
def json (time : Option String) (r : LogRecord) : Json :=
  .object ((time.map fun t => ("timestamp", Json.string t)).toList
    ++ [("level", .string r.level.label), ("fields", .object r.fields), ("target", .string r.target)])

/-- **An event as a line of the log.** -/
def line (format : LogFormat) (time : Option String) (r : LogRecord) : String :=
  let front := (time.map (· ++ " ")).getD ""
  match format with
  | .json => (json time r).text
  | .compact => front ++ r.level.label ++ " " ++ r.target ++ ": " ++ r.message ++ r.detailText
  | .pretty =>
    "  " ++ front ++ r.level.label ++ " " ++ r.target ++ ": " ++ r.message ++ "\n   " ++ r.detailText
      ++ "\n"

end DirectorySearch.LogRecord
