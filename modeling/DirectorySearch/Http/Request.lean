import DirectorySearch.Directory.Connection
import DirectorySearch.Http.Url
import DirectorySearch.Text.Base64
import DirectorySearch.Text.Blank

/-!
# Asking a directory over HTTP

A query is sent to the URL of a directory in one of two ways: with its fields added to the query of the
URL, or as a JSON body.

* `Endpoint` — where and how a directory is asked.
* `Request`, **`Endpoint.request`** — what is sent for a query.
* `Delivery` — what the network brings back.
* **`Endpoint.receive`** — the reply that a delivery means.
* `Endpoint.transport` — a transport from what the network will bring back.
-/

namespace DirectorySearch

/-- The name and the password of a user. -/
structure Credentials where
  /-- The name. -/
  username : String
  /-- The password. -/
  password : String := ""
deriving DecidableEq, Repr

namespace Credentials

/-- The credentials as they are shown: without the password. -/
def shown (c : Credentials) : String :=
  "BasicAuthConfig \x7b username: " ++ diagnosticQuote c.username ++ ", password: \"****\" \x7d"

/-- The header that carries the credentials. -/
def header (c : Credentials) : String :=
  "Basic " ++ String.ofList (base64 (utf8Bytes (c.username ++ ":" ++ c.password).toList))

end Credentials

/-- Where and how a directory is asked. -/
structure Endpoint where
  /-- Its URL. -/
  url : String
  /-- How queries are sent. -/
  method : HttpMethod := .get
  /-- Who asks. -/
  credentials : Option Credentials := none
deriving DecidableEq, Repr

/-- What is sent. -/
structure Request where
  /-- The method. -/
  method : HttpMethod
  /-- The URL, without credentials. -/
  url : Url
  /-- Who asks. -/
  authorization : Option String := none
  /-- What kind of body there is. -/
  contentType : Option String := none
  /-- The body. -/
  body : String := ""
deriving DecidableEq, Repr

/-- The name and the value of a field in a form; only texts and numbers are fields. -/
def formPair : String × Json → String × String
  | (name, .string s) => (name, s)
  | (name, value) => (name, value.text)

/-- The credentials that a URL holds; a name that is no text is none. -/
def Url.credentials? (u : Url) : Option Credentials :=
  let plain (s : String) : Option String := (decodeStrict? (percentDecode s.toList)).map String.ofList
  match plain u.username, u.password.bind plain with
  | none, _ => none
  | some "", none => none
  | some username, password => some ⟨username, password.getD ""⟩

namespace Endpoint

/-- **What is sent for a query.**  The URL has to be one of the web; credentials that it holds count
where the endpoint has none. -/
def request (e : Endpoint) (q : CompiledQuery) : Except TransportError Request :=
  match Url.parse e.url with
  | .error error => .error (.request ("builder error: " ++ error.message))
  | .ok url =>
    if url.scheme ≠ "http" && url.scheme ≠ "https" then
      .error (.request ("builder error for url (" ++ url.text ++ ")"))
    else
      let authorization := (url.credentials? <|> e.credentials).map Credentials.header
      let url := if url.credentials?.isSome then url.withoutUser else url
      match e.method with
      | .get => .ok { method := .get, url := url.withForm (q.fields.map formPair), authorization }
      | .post =>
        .ok { method := .post, url, authorization, contentType := some "application/json"
              body := q.text }

end Endpoint

/-! ## What comes back -/

/-- What the network brings back for a request. -/
inductive Delivery where
  /-- A reply with a status and a body. -/
  | reply (status : Nat) (body : List UInt8)
  /-- Nothing: the directory cannot be reached. -/
  | unreachable
deriving DecidableEq, Repr

/-- The value of a reply's body; a blank body counts as null. -/
def bodyValue (body : List Char) : Except TransportError Json :=
  if (trim body).isEmpty then .ok .null
  else
    match Json.parse? (String.ofList body) with
    | some value => .ok value
    | none => .error (.decode "the body is not one JSON value")

/-- What a reply means: its value where the status reports success, an error otherwise. -/
def replyValue (status : Nat) (body : List UInt8) : Except TransportError Json :=
  let text := decodeLossy body
  if 200 ≤ status ∧ status < 300 then bodyValue text
  else .error (.status status (String.ofList text))

/-- The error of a request that did not reach the directory. -/
def Request.failure (r : Request) : TransportError :=
  .request ("error sending request for url (" ++ r.url.text ++ ")")

namespace Endpoint

/-- **The reply that a delivery means** for a query. -/
def receive (e : Endpoint) (d : Delivery) (q : CompiledQuery) : Reply Json :=
  match e.request q with
  | .error error => ⟨.error error, []⟩
  | .ok r =>
    match d with
    | .unreachable => ⟨.error r.failure, []⟩
    | .reply status body => ⟨replyValue status body, [.replied e.method e.url status]⟩

/-- A transport from what the network will bring back; after that the directory is out of reach. -/
def transport (e : Endpoint) (deliveries : List Delivery) : Transport :=
  { replies := deliveries.map e.receive
    closing := fun q => (e.receive .unreachable q).map fun _ => () }

/-- The requests that were made for some queries. -/
def requests (e : Endpoint) (sent : List CompiledQuery) : List Request :=
  sent.filterMap fun q => (e.request q).toOption

end Endpoint

end DirectorySearch
