import DirectorySearch.Http.DomainTable
import DirectorySearch.Http.Punycode
import DirectorySearch.Text.Case
import DirectorySearch.Text.Fields
import DirectorySearch.Text.Percent

/-!
# Hosts of URLs

A host is a domain name or an address.  Which of the two a text is depends on its end: a name whose last
label is a number is an address, or wrong.

* `Host` — the hosts.
* `UrlError` — what can be wrong with a URL, and the wording.
* `asciiDomain?` — a domain name in the form in which it is looked up: letters in lower case, labels
  beyond ASCII in their ASCII form.
* `addressV4?`, `addressV6?` — addresses.
* **`Host.parse`** — the host of a URL of the web.  `Host.parseAny` is for other URLs, whose hosts are
  kept as they are.

Of the mapping of domain names this library knows the letters of the Latin, Greek and Cyrillic scripts,
the wide forms of ASCII and the characters that count for nothing.
-/

namespace DirectorySearch

/-- What can be wrong with a URL. -/
inductive UrlError where
  /-- There is no host. -/
  | emptyHost
  /-- The host is no domain name. -/
  | domain
  /-- The port is no number of 16 bits. -/
  | port
  /-- The host looks like an address of four numbers and is none. -/
  | addressV4
  /-- What stands in brackets is no address. -/
  | addressV6
  /-- The host holds a character that has a meaning elsewhere in a URL. -/
  | hostCharacter
  /-- There is no scheme. -/
  | relative
deriving DecidableEq, Repr

/-- The wording of the error. -/
def UrlError.message : UrlError → String
  | .emptyHost => "empty host"
  | .domain => "invalid international domain name"
  | .port => "invalid port number"
  | .addressV4 => "invalid IPv4 address"
  | .addressV6 => "invalid IPv6 address"
  | .hostCharacter => "invalid domain character"
  | .relative => "relative URL without a base"

/-- The host of a URL. -/
inductive Host where
  /-- A domain name, or any other name. -/
  | name (text : String)
  /-- An address of 32 bits. -/
  | addressV4 (bits : Nat)
  /-- An address of eight numbers of 16 bits. -/
  | addressV6 (pieces : List Nat)
deriving DecidableEq, Repr

/-! ## Domain names -/

/-- The ASCII characters that no domain name may hold: control characters, the space, and those with a
meaning in URLs. -/
def isRefusedAscii (c : Char) : Bool :=
  c.toNat ≤ 0x20 || c.toNat == 0x7f || "%#/:<>?@[\\]^`\x7b|\x7d".toList.contains c

/-- Whether a character counts for nothing in a domain name. -/
def isIgnoredInDomain (c : Char) : Bool :=
  let n := c.toNat
  n == 0xad || n == 0x34f || (0x180b ≤ n && n ≤ 0x180d) || n == 0x180f || n == 0x200b || n == 0x2060
    || n == 0x2064 || n == 0xfeff || (0xfe00 ≤ n && n ≤ 0xfe0f) || (0xe0100 ≤ n && n ≤ 0xe01ef)

/-- A letter of a domain name in lower case; the other full stops are full stops. -/
def mapDomainChar (c : Char) : Char :=
  let n := c.toNat
  let shift (k : Nat) : Char := Char.ofNat (n + k)
  if n < 0x80 then c.toLower
  else if n == 0x3002 || n == 0xff61 then '.'
  else if 0xff01 ≤ n && n ≤ 0xff5e then (Char.ofNat (n - 0xfee0)).toLower
  else if 0xc0 ≤ n && n ≤ 0xde && n != 0xd7 then shift 0x20
  else if n == 0x178 then Char.ofNat 0xff
  else if (0x100 ≤ n && n ≤ 0x137 && n != 0x130) || (0x14a ≤ n && n ≤ 0x177) then
    if n % 2 == 0 then shift 1 else c
  else if (0x139 ≤ n && n ≤ 0x148) || (0x179 ≤ n && n ≤ 0x17e) then
    if n % 2 == 1 then shift 1 else c
  else if 0x391 ≤ n && n ≤ 0x3ab && n != 0x3a2 then shift 0x20
  else if 0x410 ≤ n && n ≤ 0x42f then shift 0x20
  else if 0x400 ≤ n && n ≤ 0x40f then shift 0x50
  else c

/-- A domain name with its characters mapped. -/
def mapDomain (text : List Char) : List Char :=
  (text.filter (!isIgnoredInDomain ·)).map mapDomainChar

/-- Whether a character can stand in a domain name as it is. -/
def isDomainChar (c : Char) : Bool :=
  if c.toNat < 0x80 then !isRefusedAscii c
  else !isRefusedInDomain c && !isIgnoredInDomain c && mapDomainChar c == c

/-- Whether a text is ASCII. -/
def isAscii (text : List Char) : Bool := text.all (·.toNat < 0x80)

/-- What a label in ASCII form starts with. -/
def asciiLabelMark : List Char := ['x', 'n', '-', '-']

/-- A label whose characters are mapped, in ASCII form.  A label that is in this form already has to be
the form of some label beyond ASCII. -/
def asciiLabel? (label : List Char) : Option (List Char) :=
  if !label.all isDomainChar then none
  else if label.take 4 = asciiLabelMark then
    if !isAscii label then none
    else
      match Punycode.decode? (label.drop 4) with
      | none => none
      | some decoded =>
        if isAscii decoded || !decoded.all isDomainChar then none else some label
  else if isAscii label then some label
  else some (asciiLabelMark ++ Punycode.encode label)

/-- A domain name in ASCII form. -/
def asciiDomain? (text : List Char) : Option (List Char) :=
  ((fields '.' (mapDomain text)).mapM asciiLabel?).map (joinFields '.')

/-! ## Addresses of 32 bits -/

/-- The value of digits of a base, if they are such. -/
def digitsInBase? (base : Nat) (digits : List Char) : Option Nat :=
  digits.foldlM (fun n c =>
    match hexValue? c with
    | some d => if d < base then some (n * base + d) else none
    | none => none) 0

/-- One number of an address: hexadecimal after `0x`, octal after another zero, decimal otherwise. -/
def addressNumber? : List Char → Option Nat
  | [] => none
  | '0' :: 'x' :: digits => digitsInBase? 16 digits
  | '0' :: 'X' :: digits => digitsInBase? 16 digits
  | '0' :: d :: digits => digitsInBase? 8 (d :: digits)
  | digits => digitsInBase? 10 digits

/-- The labels of a domain name without the empty one behind a final full stop. -/
def withoutFinalStop (labels : List (List Char)) : List (List Char) :=
  if labels.getLast? = some [] then labels.dropLast else labels

/-- Whether a domain name is meant as an address: its last label is a number. -/
def endsInNumber (labels : List (List Char)) : Bool :=
  match (withoutFinalStop labels).getLast? with
  | none => false
  | some last => (!last.isEmpty && last.all Char.isDigit) || (addressNumber? last).isSome

/-- An address of up to four numbers: each stands for a byte, and the last one for all bytes that are
left. -/
def addressV4? (labels : List (List Char)) : Option Nat := do
  let labels := withoutFinalStop labels
  if 4 < labels.length then none
  else
    let numbers ← labels.mapM addressNumber?
    let last ← numbers.getLast?
    let front := numbers.dropLast
    if front.any (255 < ·) || Nat.pow 256 (4 - front.length) ≤ last then none
    else
      some (last + ((front.zip (List.range 4)).map fun (n, i) => n * Nat.pow 256 (3 - i)).foldr (· + ·) 0)

/-! ## Addresses of 128 bits -/

/-- A number of up to four hexadecimal digits. -/
def addressPiece? (digits : List Char) : Option Nat :=
  if digits.isEmpty || 4 < digits.length then none else digitsInBase? 16 digits

/-- A decimal byte without leading zeros. -/
def addressByte? (digits : List Char) : Option Nat :=
  if digits.isEmpty || (digits.head? = some '0' && 1 < digits.length) then none
  else (digitsInBase? 10 digits).filter (· ≤ 255)

/-- The two last numbers of an address, written as four bytes. -/
def addressTail? (text : List Char) : Option (List Nat) :=
  match (fields '.' text).mapM addressByte? with
  | some [a, b, c, d] => some [a * 256 + b, c * 256 + d]
  | _ => none

/-- The numbers between colons; the last may be written as four bytes where that is allowed. -/
def addressPieces? (tail : Bool) : List (List Char) → Option (List Nat)
  | [] => some []
  | [last] =>
    if tail && last.contains '.' then addressTail? last else (addressPiece? last).map ([·])
  | piece :: rest => do
    let n ← addressPiece? piece
    let ns ← addressPieces? tail rest
    return n :: ns

/-- The texts before and after the first double colon. -/
def cutDoubleColon? : List Char → Option (List Char × List Char)
  | ':' :: ':' :: rest => some ([], rest)
  | c :: rest => (cutDoubleColon? rest).map fun (before, after) => (c :: before, after)
  | [] => none

/-- The numbers of a text that may be empty. -/
def addressSide? (tail : Bool) (text : List Char) : Option (List Nat) :=
  if text.isEmpty then some [] else addressPieces? tail (fields ':' text)

/-- An address of eight numbers, of which a double colon stands for one or more zeros. -/
def addressV6? (text : List Char) : Option (List Nat) :=
  match cutDoubleColon? text with
  | none => (addressPieces? true (fields ':' text)).filter (·.length = 8)
  | some (before, after) => do
    let front ← addressSide? false before
    let back ← addressSide? true after
    if front.length + back.length ≤ 7 then
      some (front ++ List.replicate (8 - front.length - back.length) 0 ++ back)
    else none

/-! ## Hosts -/

/-- The number of zeros in front of some numbers. -/
def zerosInFront (pieces : List Nat) : Nat := (pieces.takeWhile (· = 0)).length

/-- Where the first longest run of zeros is, and how long. -/
def longestZeros : Nat → List Nat → Nat × Nat
  | _, [] => (0, 0)
  | i, piece :: rest =>
    let run := zerosInFront (piece :: rest)
    let later := longestZeros (i + 1) rest
    if run ≠ 0 ∧ later.2 ≤ run then (i, run) else later

/-- The text of some numbers of an address. -/
def piecesText (pieces : List Nat) : List Char :=
  joinFields ':' (pieces.map (Nat.toDigits 16))

/-- The text of an address of eight numbers; the first longest run of zeros is left out, if there are
at least two. -/
def addressV6Text (pieces : List Nat) : List Char :=
  let (start, run) := longestZeros 0 pieces
  if run < 2 then piecesText pieces
  else piecesText (pieces.take start) ++ [':', ':'] ++ piecesText (pieces.drop (start + run))

namespace Host

/-- The text of a host. -/
def text : Host → List Char
  | .name s => s.toList
  | .addressV4 bits =>
    joinFields '.' ([3, 2, 1, 0].map fun i => Nat.toDigits 10 (bits / Nat.pow 256 i % 256))
  | .addressV6 pieces => '[' :: (addressV6Text pieces ++ [']'])

/-- What stands in brackets, if the text is bracketed; nothing at all if only its start is. -/
def bracketed? : List Char → Option (Option (List Char))
  | '[' :: rest => if rest.getLast? = some ']' then some (some rest.dropLast) else some none
  | _ => none

/-- An address in brackets. -/
def parseBracketed (inside : Option (List Char)) : Except UrlError Host :=
  match inside.bind addressV6? with
  | some pieces => .ok (.addressV6 pieces)
  | none => .error .addressV6

/-- **The host of a URL of the web.** -/
def parse (text : List Char) : Except UrlError Host :=
  match bracketed? text with
  | some inside => parseBracketed inside
  | none =>
    match (decodeStrict? (percentDecode text)).bind asciiDomain? with
    | none => .error .domain
    | some [] => .error .emptyHost
    | some domain =>
      let labels := fields '.' domain
      if endsInNumber labels then
        match addressV4? labels with
        | some bits => .ok (.addressV4 bits)
        | none => .error .addressV4
      else .ok (.name (String.ofList domain))

/-- Whether a character cannot stand in any host. -/
def isRefusedInHost (c : Char) : Bool :=
  "\x00\t\n\r #/:<>?@[\\]^|".toList.contains c

/-- The host of any other URL. -/
def parseAny (text : List Char) : Except UrlError Host :=
  match bracketed? text with
  | some inside => parseBracketed inside
  | none =>
    if text.any isRefusedInHost then .error .hostCharacter
    else
      let keep (c : Char) : Bool := 0x20 ≤ c.toNat && c.toNat < 0x7f
      .ok (.name (String.ofList (percentEncode keep text)))

end Host

end DirectorySearch
