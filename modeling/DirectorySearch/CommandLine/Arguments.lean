import DirectorySearch.Text.Blank
import DirectorySearch.Text.Fields

/-!
# Arguments of the command line

The program has two commands, `search` and `check`, and one option that can stand before or behind the
command.

* `Invocation` — what the arguments ask for.
* **`Invocation.parse`** — reads them, from left to right; the first thing that is wrong, or that asks
  for help, decides.

A value can follow its option as the next argument, unless it starts with a hyphen, or stand behind an
equals sign, or directly behind the letter of the option.
-/

namespace DirectorySearch

/-- What a search is asked for. -/
structure SearchRequest where
  /-- Attributes with the values they have to have. -/
  conditions : List (String × String) := []
  /-- Filter text that is used unchanged. -/
  raw : Option String := none
  /-- The attributes to return. -/
  attributes : List String := []
  /-- How many entries are printed. -/
  limit : Option UInt32 := none
  /-- Whether the queries are printed instead of sent. -/
  pretend : Bool := false
deriving DecidableEq, Repr, Inhabited

/-- The commands. -/
inductive Command where
  /-- Searches the directory. -/
  | search (request : SearchRequest)
  /-- Checks the configuration. -/
  | check
deriving DecidableEq, Repr

/-- What the arguments ask for. -/
inductive Invocation where
  /-- A command, with the path of the configuration if one is given. -/
  | run (command : Command) (config : Option String)
  /-- How to use the program. -/
  | help
  /-- The version of the program. -/
  | version
  /-- Nothing that the program understands. -/
  | misuse
deriving DecidableEq, Repr

namespace Invocation

/-- The path of the configuration if none is given. -/
def defaultConfig : String := "scim-query.toml"

/-- The path of the configuration. -/
def configPath : Invocation → String
  | .run _ config => config.getD defaultConfig
  | _ => defaultConfig

/-! ## Options -/

/-- The options. -/
inductive Flag where
  /-- The path of the configuration. -/
  | config
  /-- A condition. -/
  | condition
  /-- Filter text. -/
  | raw
  /-- Attributes. -/
  | attributes
  /-- A limit. -/
  | limit
  /-- A dry run. -/
  | pretend
  /-- Help. -/
  | help
  /-- The version. -/
  | version
deriving DecidableEq, Repr

/-- Where an option can stand. -/
inductive Level where
  /-- Before the command. -/
  | top
  /-- Behind `search`. -/
  | search
  /-- Behind `check`. -/
  | check
deriving DecidableEq, Repr

/-- The option of a long name. -/
def Flag.ofLongName? : Level → String → Option Flag
  | _, "config" => some .config
  | _, "help" => some .help
  | .top, "version" => some .version
  | .search, "where" => some .condition
  | .search, "raw" => some .raw
  | .search, "attributes" => some .attributes
  | .search, "limit" => some .limit
  | .search, "pretend" => some .pretend
  | _, _ => none

/-- The option of a letter. -/
def Flag.ofLetter? : Level → Char → Option Flag
  | _, 'c' => some .config
  | _, 'h' => some .help
  | .top, 'V' => some .version
  | .search, 'w' => some .condition
  | .search, 'a' => some .attributes
  | .search, 'l' => some .limit
  | _, _ => none

/-- Whether an option takes a value. -/
def Flag.takesValue : Flag → Bool
  | .config | .condition | .raw | .attributes | .limit => true
  | .pretend | .help | .version => false

/-! ## Values -/

/-- A condition: a name, an equals sign, and a value.  Blanks around the name do not count. -/
def readCondition? (text : String) : Option (String × String) :=
  let name := trim (text.toList.takeWhile (· ≠ '='))
  match text.toList.dropWhile (· ≠ '=') with
  | _ :: value => if name.isEmpty then none else some (String.ofList name, String.ofList value)
  | [] => none

/-- A limit: digits with a sign or without, of a value that fits 32 bits. -/
def readLimit? (text : String) : Option UInt32 :=
  let (negative, digits) := match text.toList with
    | '-' :: rest => (true, rest)
    | '+' :: rest => (false, rest)
    | rest => (false, rest)
  if digits.isEmpty || !digits.all Char.isDigit then none
  else
    let n := digits.foldl (fun n c => n * 10 + (c.toNat - '0'.toNat)) 0
    if n < UInt32.size && (!negative || n = 0) then some n.toUInt32 else none

/-- What has been read of the arguments. -/
structure Reading where
  /-- The path of the configuration, at the level that is being read. -/
  config : Option String := none
  /-- The search. -/
  request : SearchRequest := {}
deriving DecidableEq, Repr

/-- How reading ends early. -/
inductive Stop where
  /-- Help is asked for. -/
  | help
  /-- The version is asked for. -/
  | version
  /-- Something is wrong. -/
  | misuse
deriving DecidableEq, Repr

/-- What reading that ended early comes to. -/
def Stop.invocation : Stop → Invocation
  | .help => .help
  | .version => .version
  | .misuse => .misuse

namespace Reading

/-- An option that takes no value. -/
def setFlag (r : Reading) : Flag → Except Stop Reading
  | .help => .error .help
  | .version => .error .version
  | .pretend =>
    if r.request.pretend then .error .misuse
    else .ok { r with request := { r.request with pretend := true } }
  | _ => .error .misuse

/-- An option with its value.  Only conditions and attributes can be given more than once. -/
def setValue (r : Reading) (flag : Flag) (value : String) : Except Stop Reading :=
  match flag with
  | .config => if r.config.isSome then .error .misuse else .ok { r with config := some value }
  | .condition =>
    match readCondition? value with
    | none => .error .misuse
    | some c => .ok { r with request := { r.request with conditions := r.request.conditions ++ [c] } }
  | .raw =>
    if r.request.raw.isSome then .error .misuse
    else .ok { r with request := { r.request with raw := some value } }
  | .attributes =>
    let names := (fields ',' value.toList).map String.ofList
    .ok { r with request := { r.request with attributes := r.request.attributes ++ names } }
  | .limit =>
    match readLimit? value with
    | none => .error .misuse
    | some n =>
      if r.request.limit.isSome then .error .misuse
      else .ok { r with request := { r.request with limit := some n } }
  | _ => .error .misuse

end Reading

/-! ## One argument -/

/-- What an argument comes to: everything is read, or an option still needs the next argument. -/
inductive Progress where
  /-- Everything is read. -/
  | ready (r : Reading)
  /-- The value of an option is missing. -/
  | awaiting (r : Reading) (flag : Flag)
deriving DecidableEq, Repr

/-- An argument with one hyphen: letters of options, the last of which may have its value behind it. -/
def readLetters (level : Level) (r : Reading) : List Char → Except Stop Progress
  | [] => .ok (.ready r)
  | c :: rest =>
    match Flag.ofLetter? level c with
    | none => .error .misuse
    | some flag =>
      if flag.takesValue then
        match rest with
        | [] => .ok (.awaiting r flag)
        | '=' :: value => (r.setValue flag (String.ofList value)).map .ready
        | value => (r.setValue flag (String.ofList value)).map .ready
      else
        match r.setFlag flag with
        | .error stop => .error stop
        | .ok r => readLetters level r rest

/-- An argument with two hyphens: the name of an option, maybe with its value behind an equals sign. -/
def readLongName (level : Level) (r : Reading) (text : List Char) : Except Stop Progress :=
  let name := String.ofList (text.takeWhile (· ≠ '='))
  match Flag.ofLongName? level name, text.dropWhile (· ≠ '=') with
  | none, _ => .error .misuse
  | some flag, [] =>
    if flag.takesValue then .ok (.awaiting r flag) else (r.setFlag flag).map .ready
  | some flag, _ :: value =>
    if flag.takesValue then (r.setValue flag (String.ofList value)).map .ready else .error .misuse

/-- Whether an argument is an option, and not a value. -/
def isOption : List Char → Bool
  | '-' :: _ :: _ => true
  | _ => false

/-! ## All arguments -/

/-- The arguments behind a command. -/
def readCommandArguments (level : Level) (r : Reading) : List String → Except Stop Reading
  | [] => .ok r
  | arg :: rest =>
    match arg.toList with
    | ['-', '-'] => if rest.isEmpty then .ok r else .error .misuse
    | '-' :: c :: cs =>
      let read := if c = '-' then readLongName level r cs else readLetters level r (c :: cs)
      match read, rest with
      | .error stop, _ => .error stop
      | .ok (.ready r), rest => readCommandArguments level r rest
      | .ok (.awaiting _ _), [] => .error .misuse
      | .ok (.awaiting r flag), value :: rest =>
        if isOption value.toList then .error .misuse
        else
          match r.setValue flag value with
          | .error stop => .error stop
          | .ok r => readCommandArguments level r rest
    | _ => .error .misuse

/-- What follows the command `help`: at most the name of a command. -/
def readHelpArguments : List String → Invocation
  | [] | ["search"] | ["check"] | ["help"] => .help
  | _ => .misuse

/-- A command with what was read behind it, and the path of the configuration given before it. -/
def ofReading (outer : Option String) (command : SearchRequest → Command) :
    Except Stop Reading → Invocation
  | .error stop => stop.invocation
  | .ok r => .run (command r.request) (r.config <|> outer)

/-- The arguments from the first one on, after what was read before. -/
def readTopArguments (r : Reading) : List String → Invocation
  | [] => .misuse
  | "search" :: rest => ofReading r.config .search (readCommandArguments .search {} rest)
  | "check" :: rest => ofReading r.config (fun _ => .check) (readCommandArguments .check {} rest)
  | "help" :: rest => readHelpArguments rest
  | arg :: rest =>
    match arg.toList with
    | ['-', '-'] => .misuse
    | '-' :: c :: cs =>
      let read := if c = '-' then readLongName .top r cs else readLetters .top r (c :: cs)
      match read, rest with
      | .error stop, _ => stop.invocation
      | .ok (.ready r), rest => readTopArguments r rest
      | .ok (.awaiting _ _), [] => .misuse
      | .ok (.awaiting r flag), value :: rest =>
        if isOption value.toList then .misuse
        else
          match r.setValue flag value with
          | .error stop => stop.invocation
          | .ok r => readTopArguments r rest
    | _ => .misuse

/-- **Reads the arguments.** -/
def parse (args : List String) : Invocation := readTopArguments {} args

end Invocation

end DirectorySearch
