/-!
# Request methods

* `HttpMethod` — how a query is sent: its fields in the query of the URL, or as a JSON body.
-/

namespace DirectorySearch

/-- How a query is sent. -/
inductive HttpMethod where
  /-- With its fields in the URL. -/
  | get
  /-- With its fields as a JSON body. -/
  | post
deriving DecidableEq, Repr, Inhabited

namespace HttpMethod

/-- All methods. -/
def all : List HttpMethod := [.get, .post]

/-- The name of a method in a configuration. -/
def name : HttpMethod → String
  | .get => "get"
  | .post => "post"

/-- The name of a method in a log. -/
def label : HttpMethod → String
  | .get => "Get"
  | .post => "Post"

/-- The name of a method in a request. -/
def verb : HttpMethod → String
  | .get => "GET"
  | .post => "POST"

/-- The method with exactly this name. -/
def ofName? (name : String) : Option HttpMethod := all.find? fun m => m.name == name

end HttpMethod

end DirectorySearch
