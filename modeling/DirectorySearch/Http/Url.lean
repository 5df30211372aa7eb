import DirectorySearch.Http.Host

/-!
# URLs

A URL is read the way browsers read one: blanks around it and line ends inside it do not count, a
backslash is as good as a slash, dots in the path are resolved, and characters that cannot stand for
themselves are written byte by byte.

* `Url` — a URL taken apart, every part in the form in which it is written.
* **`Url.parse`** — reads a URL; only complete URLs are read, not references relative to another.
* `Url.text`, `Url.target` — the whole text, and the part that is asked of the host.
* `Url.withForm` — a URL with form fields added to its query.
-/

namespace DirectorySearch

/-- A URL taken apart. -/
structure Url where
  /-- The scheme, in lower case. -/
  scheme : String
  /-- The name of the user. -/
  username : String := ""
  /-- The password of the user. -/
  password : Option String := none
  /-- The host; missing in URLs that name none. -/
  host : Option Host := none
  /-- The port, unless it is the one that belongs to the scheme. -/
  port : Option Nat := none
  /-- The path, with its slash in front. -/
  path : String := ""
  /-- The query. -/
  query : Option String := none
  /-- The fragment. -/
  fragment : Option String := none
deriving DecidableEq, Repr

namespace Url

/-! ## What stands for itself -/

/-- Whether a character is visible ASCII or a space. -/
def isPlain (c : Char) : Bool := 0x20 ≤ c.toNat && c.toNat < 0x7f

/-- Whether a character stands for itself in a fragment. -/
def keepsInFragment (c : Char) : Bool := isPlain c && !" \"<>`".toList.contains c

/-- Whether a character stands for itself in a path. -/
def keepsInPath (c : Char) : Bool := keepsInFragment c && !"#?\x7b\x7d".toList.contains c

/-- Whether a character stands for itself in the name or the password of a user. -/
def keepsInUser (c : Char) : Bool := keepsInPath c && !"/:;=@[\\]^|".toList.contains c

/-- Whether a character stands for itself in a query; URLs of the web also write an apostrophe by its
number. -/
def keepsInQuery (special : Bool) (c : Char) : Bool :=
  isPlain c && !" \"#<>".toList.contains c && !(special && c = '\'')

/-! ## Schemes -/

/-- The schemes of the web with their ports. -/
def schemePorts : List (String × Nat) :=
  [("http", 80), ("https", 443), ("ws", 80), ("wss", 443), ("ftp", 21)]

/-- Whether a scheme is one whose URLs always have a host and take a backslash for a slash. -/
def isSpecial (scheme : String) : Bool := (schemePorts.lookup scheme).isSome

/-- Whether a character can stand in a scheme. -/
def isSchemeChar (c : Char) : Bool := c.isAlphanum || c = '+' || c = '-' || c = '.'

/-- The scheme in front of a text, and the text behind its colon. -/
def readScheme? (text : List Char) : Option (String × List Char) :=
  let name := text.takeWhile isSchemeChar
  match name.head?, text.dropWhile isSchemeChar with
  | some first, ':' :: rest =>
    if first.isAlpha then some (String.ofList (foldCase name), rest) else none
  | _, _ => none

/-! ## Paths, queries and fragments -/

/-- Whether a character separates the steps of a path. -/
def isSlash (special : Bool) (c : Char) : Bool := c = '/' || (special && c = '\\')

/-- The steps of a path. -/
def steps (special : Bool) (path : List Char) : List (List Char) :=
  fields '/' (path.map fun c => if isSlash special c then '/' else c)

/-- Whether a step stands for where it is. -/
def isHere (step : List Char) : Bool := ["." , "%2e"].contains (String.ofList (foldCase step))

/-- Whether a step leads back. -/
def isBack (step : List Char) : Bool :=
  ["..", ".%2e", "%2e.", "%2e%2e"].contains (String.ofList (foldCase step))

/-- The steps of a path with dots resolved, after the steps already taken. -/
def resolve : List (List Char) → List (List Char) → List (List Char)
  | taken, [] => taken
  | taken, [last] =>
    if isBack last then taken.dropLast ++ [[]]
    else if isHere last then taken ++ [[]]
    else taken ++ [last]
  | taken, step :: rest =>
    if isBack step then resolve taken.dropLast rest
    else if isHere step then resolve taken rest
    else resolve (taken ++ [step]) rest

/-- A path that starts with a slash, without that slash. -/
def parsePath (special : Bool) (path : List Char) : List Char :=
  '/' :: joinFields '/' (resolve [] ((steps special path).map (percentEncode keepsInPath)))

/-- A text up to the first character of some kind, and the rest. -/
def cutAt (stops : Char → Bool) (text : List Char) : List Char × List Char :=
  (text.takeWhile (!stops ·), text.dropWhile (!stops ·))

/-- The query at the front of a text, if there is one, and the rest. -/
def readQuery (special : Bool) : List Char → Option String × List Char
  | '?' :: rest =>
    let (query, rest) := cutAt (· = '#') rest
    (some (String.ofList (percentEncode (keepsInQuery special) query)), rest)
  | rest => (none, rest)

/-- The fragment that a text is, if it is one. -/
def readFragment : List Char → Option String
  | '#' :: rest => some (String.ofList (percentEncode keepsInFragment rest))
  | _ => none

/-- A URL completed by its path and by what follows the path. -/
def complete (u : Url) (path rest : List Char) : Url :=
  let (query, rest) := readQuery (isSpecial u.scheme) rest
  { u with path := String.ofList path, query, fragment := readFragment rest }

/-- A URL completed by what follows its host. -/
def completeHost (u : Url) (rest : List Char) : Url :=
  let special := isSpecial u.scheme
  let (path, rest) := cutAt (fun c => c = '?' || c = '#') rest
  match path with
  | [] => u.complete (if special then ['/'] else []) rest
  | c :: cs => u.complete (parsePath special (if isSlash special c then cs else c :: cs)) rest

/-! ## Users, hosts and ports -/

/-- The text up to the last `@`, if there is one, and the text behind it. -/
def cutUser (authority : List Char) : Option (List Char) × List Char :=
  let host := (authority.reverse.takeWhile (· ≠ '@')).reverse
  if host.length = authority.length then (none, authority)
  else (some (authority.take (authority.length - host.length - 1)), host)

/-- A URL with its user. -/
def withUser (u : Url) (user : List Char) : Url :=
  let encode (text : List Char) : String := String.ofList (percentEncode keepsInUser text)
  let (name, rest) := cutAt (· = ':') user
  { u with
    username := encode name
    password := if rest.length ≤ 1 then none else some (encode rest.tail) }

/-- The host of an authority, up to a colon outside brackets. -/
def cutHost : Bool → List Char → List Char × List Char
  | _, [] => ([], [])
  | inside, c :: rest =>
    if c = ':' && !inside then ([], c :: rest)
    else
      let (host, rest) := cutHost (c = '[' || (inside && c ≠ ']')) rest
      (c :: host, rest)

/-- The port behind a colon, and the text behind it.  A port that belongs to the scheme is left out. -/
def readPort (scheme : String) (text : List Char) : Except UrlError (Option Nat × List Char) :=
  let digits := text.takeWhile Char.isDigit
  let rest := text.dropWhile Char.isDigit
  match digitsInBase? 10 digits with
  | none => .error .port
  | some n =>
    if 65535 < n then .error .port
    else if !(rest.isEmpty || rest.head? = some '\\') then .error .port
    else .ok (if digits.isEmpty || schemePorts.lookup scheme = some n then none else some n, rest)

/-- A URL from its authority and what follows it. -/
def parseAuthority (scheme : String) (text : List Char) : Except UrlError Url := do
  let special := isSpecial scheme
  let (authority, rest) := cutAt (fun c => isSlash special c || c = '?' || c = '#') text
  let (user, authority) := cutUser authority
  if user = some [] && authority.isEmpty && !rest.isEmpty then throw .emptyHost
  let u : Url := ({ scheme } : Url).withUser (user.getD [])
  let (host, behind) := cutHost false authority
  if host.isEmpty && (special || !behind.isEmpty || u.username ≠ "" || u.password.isSome) then
    throw .emptyHost
  let host ← if special then Host.parse host else Host.parseAny host
  match behind with
  | ':' :: behind =>
    let (port, behind) ← readPort scheme behind
    return { u with host := some host, port }.completeHost (behind ++ rest)
  | _ => return { u with host := some host }.completeHost rest

/-- Whether a text is a letter with a colon or a bar, as the drives of some systems are named. -/
def isDrive : List Char → Bool
  | [letter, sign] => letter.isAlpha && (sign = ':' || sign = '|')
  | _ => false

/-- A URL of a file. -/
def parseFile (text : List Char) : Except UrlError Url :=
  let u : Url := { scheme := "file" }
  match text with
  | a :: b :: rest =>
    if isSlash true a && isSlash true b then
      let (host, behind) := cutAt (fun c => isSlash true c || c = '?' || c = '#') rest
      if host.isEmpty || isDrive host then .ok (u.completeHost rest)
      else (Host.parse host).map fun host => { u with host := some host }.completeHost behind
    else .ok (u.completeHost text)
  | _ => .ok (u.completeHost text)

/-! ## Whole URLs -/

/-- A text without control characters and spaces at its ends. -/
def trimControls (text : List Char) : List Char :=
  let drop (text : List Char) := text.dropWhile (·.toNat ≤ 0x20)
  (drop (drop text).reverse).reverse

/-- Whether a character does not count anywhere in a URL. -/
def isLineEnd (c : Char) : Bool := c = '\t' || c = '\n' || c = '\r'

/-- **Reads a URL.** -/
def parse (text : String) : Except UrlError Url :=
  match readScheme? ((trimControls text.toList).filter (!isLineEnd ·)) with
  | none => .error .relative
  | some (scheme, rest) =>
    if scheme = "file" then parseFile rest
    else if isSpecial scheme then parseAuthority scheme (rest.dropWhile (isSlash true))
    else
      match rest with
      | '/' :: '/' :: rest => parseAuthority scheme rest
      | '/' :: _ => .ok (({ scheme } : Url).completeHost rest)
      | _ =>
        let (path, rest) := cutAt (fun c => c = '?' || c = '#') rest
        .ok (({ scheme } : Url).complete (percentEncode isPlain path) rest)

/-! ## The text of a URL -/

/-- The text of a part that may be missing, behind its mark. -/
def marked (mark : Char) : Option String → List Char
  | none => []
  | some s => mark :: s.toList

/-- The user of a URL, with the sign that separates it from the host. -/
def userText (u : Url) : List Char :=
  if u.username = "" && u.password.isNone then []
  else u.username.toList ++ marked ':' u.password ++ ['@']

/-- The host of a URL with its user and its port. -/
def authorityText (u : Url) : List Char :=
  match u.host with
  | none => []
  | some host =>
    ['/', '/'] ++ u.userText ++ host.text ++ marked ':' (u.port.map fun n => String.ofList (Nat.toDigits 10 n))

/-- What is asked of the host. -/
def target (u : Url) : String := String.ofList (u.path.toList ++ marked '?' u.query)

/-- The text of a URL. -/
def text (u : Url) : String :=
  String.ofList <|
    u.scheme.toList ++ ':' :: (u.authorityText ++ u.target.toList ++ marked '#' u.fragment)

/-- A URL with form fields added to its query. -/
def withForm (u : Url) (pairs : List (String × String)) : Url :=
  let added := joinFields '&' (formFields pairs)
  let query :=
    match u.query with
    | none | some "" => added
    | some q => q.toList ++ '&' :: added
  { u with query := some (String.ofList query) }

/-- A URL without its user. -/
def withoutUser (u : Url) : Url := { u with username := "", password := none }

end Url

end DirectorySearch
