import DirectorySearch.Json.Basic

/-!
# What can go wrong with a search

* `TransportError` — no usable reply: the request could not be made, the directory refused it, or its
  reply is no JSON text.
* `ConnectionError` — one of these, or a reply whose continuation token is no scalar.

Each error is a cause; `message` is its wording.
-/

namespace DirectorySearch

/-- Why there is no reply. -/
inductive TransportError where
  /-- The request could not be made. -/
  | request (reason : String)
  /-- The directory answered with an error status. -/
  | status (code : Nat) (body : String)
  /-- The reply is no JSON text. -/
  | decode (reason : String)
deriving DecidableEq, Repr

/-- The wording of the error. -/
def TransportError.message : TransportError → String
  | .request reason => "HTTP request failed: " ++ reason
  | .status code body => "Directory returned HTTP " ++ String.ofList (decimalDigits code) ++ ": " ++ body
  | .decode reason => "Invalid JSON response: " ++ reason

/-- Why a search failed. -/
inductive ConnectionError where
  /-- There is no reply. -/
  | transport (error : TransportError)
  /-- The value at the token's place is neither a scalar nor missing. -/
  | tokenNotScalar (pointer : String) (found : Json)

/-- The wording of the error. -/
def ConnectionError.message : ConnectionError → String
  | .transport error => error.message
  | .tokenNotScalar pointer found =>
    "Invalid response format: continuation token at '" ++ pointer ++ "' is not a scalar: " ++ found.text

end DirectorySearch
