import DirectorySearch.Http.Request

/-!
# Messages on the wire

A request is written as lines and a body; a reply is read back from all bytes that came in before the
directory closed the connection.

* **`Request.bytes`** — what is written for a request.
* `ReplyHead`, `readHead?` — the status and the headers of a reply.
* `readChunks?` — a body that comes in pieces, each with its size in front.
* **`Delivery.ofBytes`** — what has come in, as a delivery; bytes that are no whole reply count as none.
-/

namespace DirectorySearch

/-! ## Requests -/

/-- The end of a line. -/
def wireLineEnd : List Char := ['\r', '\n']

/-- A header line, if there is something to say. -/
def headerLine (name : String) : Option String → List Char
  | none => []
  | some value => name.toList ++ ':' :: ' ' :: value.toList ++ wireLineEnd

/-- The host of a URL with its port. -/
def Url.hostText (u : Url) : String := String.ofList (({ u.withoutUser with } : Url).authorityText.drop 2)

/-- **What is written for a request.** -/
def Request.bytes (r : Request) : List UInt8 :=
  let body := utf8Bytes r.body.toList
  let size := if r.method = .post then some (String.ofList (Nat.toDigits 10 body.length)) else none
  utf8Bytes (r.method.verb.toList ++ ' ' :: r.url.target.toList ++ " HTTP/1.1".toList ++ wireLineEnd
    ++ headerLine "host" r.url.hostText
    ++ headerLine "accept" "*/*"
    ++ headerLine "authorization" r.authorization
    ++ headerLine "content-type" r.contentType
    ++ headerLine "content-length" size
    ++ headerLine "connection" "close"
    ++ wireLineEnd)
  ++ body

/-! ## Replies -/

/-- The head of a reply. -/
structure ReplyHead where
  /-- The status. -/
  status : Nat
  /-- The headers, their names in lower case. -/
  headers : List (String × List Char)
deriving DecidableEq, Repr

/-- A line of bytes that ends in a carriage return and a line feed, and the bytes behind it. -/
def readWireLine? : List UInt8 → Option (List UInt8 × List UInt8)
  | 13 :: 10 :: rest => some ([], rest)
  | b :: rest => (readWireLine? rest).map fun (line, rest) => (b :: line, rest)
  | [] => none

/-- A header line taken apart. -/
def readHeader? (line : List Char) : Option (String × List Char) :=
  match line.dropWhile (· ≠ ':') with
  | _ :: value => some (String.ofList (foldCase (line.takeWhile (· ≠ ':'))), trim value)
  | [] => none

/-- The header lines up to the empty line, and the bytes behind it; the first argument bounds their
number. -/
def readHeaders? : Nat → List UInt8 → Option (List (String × List Char) × List UInt8)
  | 0, _ => none
  | n + 1, bytes =>
    match readWireLine? bytes with
    | none => none
    | some ([], rest) => some ([], rest)
    | some (line, rest) =>
      match readHeader? (decodeLossy line), readHeaders? n rest with
      | some header, some (headers, rest) => some (header :: headers, rest)
      | _, _ => none

/-- The head of a reply, and the bytes behind it. -/
def readHead? (bytes : List UInt8) : Option (ReplyHead × List UInt8) :=
  match readWireLine? bytes with
  | none => none
  | some (line, rest) =>
    match (fields ' ' (decodeLossy line)), readHeaders? (rest.length + 1) rest with
    | protocol :: status :: _, some (headers, rest) =>
      if "HTTP/1.".toList.isPrefixOf protocol && status.length = 3 then
        (digitsInBase? 10 status).map fun status => (⟨status, headers⟩, rest)
      else none
    | _, _ => none

/-- A body in pieces; the first argument bounds their number. -/
def readChunks? : Nat → List UInt8 → Option (List UInt8)
  | 0, _ => none
  | n + 1, bytes =>
    match readWireLine? bytes with
    | none => none
    | some (line, rest) =>
      let digits := (decodeLossy line).takeWhile fun c => c ≠ ';' && c ≠ ' '
      match if digits.isEmpty then none else digitsInBase? 16 digits with
      | none => none
      | some 0 => some []
      | some size =>
        if rest.length < size then none
        else
          match readWireLine? (rest.drop size) with
          | some ([], behind) => (readChunks? n behind).map (rest.take size ++ ·)
          | _ => none

/-- The body of a reply: in pieces, of a given size, or all there is. -/
def readBody? (head : ReplyHead) (bytes : List UInt8) : Option (List UInt8) :=
  match head.headers.lookup "transfer-encoding", head.headers.lookup "content-length" with
  | some _, _ => readChunks? (bytes.length + 1) bytes
  | none, some size =>
    match digitsInBase? 10 size with
    | none => none
    | some n => if bytes.length < n then none else some (bytes.take n)
  | none, none => some bytes

/-- **What has come in, as a delivery.** -/
def Delivery.ofBytes (bytes : List UInt8) : Delivery :=
  match readHead? bytes with
  | none => .unreachable
  | some (head, rest) =>
    match readBody? head rest with
    | none => .unreachable
    | some body => .reply head.status body

end DirectorySearch
