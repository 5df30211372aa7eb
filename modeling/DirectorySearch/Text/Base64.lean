/-!
# Base64

* `base64` — bytes as text, three bytes in four characters, the last group filled up with `=`.
-/

namespace DirectorySearch

/-- The character of six bits. -/
def base64Char (n : Nat) : Char :=
  let n := n % 64
  if n < 26 then Char.ofNat ('A'.toNat + n)
  else if n < 52 then Char.ofNat ('a'.toNat + (n - 26))
  else if n < 62 then Char.ofNat ('0'.toNat + (n - 52))
  else if n = 62 then '+' else '/'

/-- The characters of a number, six bits each, the most significant first. -/
def base64Group (n count : Nat) : List Char :=
  ((List.range 4).take count).map fun i => base64Char (n / Nat.pow 64 (3 - i))

/-- Bytes as text. -/
def base64 : List UInt8 → List Char
  | [] => []
  | [a] => base64Group (a.toNat * 65536) 2 ++ ['=', '=']
  | [a, b] => base64Group (a.toNat * 65536 + b.toNat * 256) 3 ++ ['=']
  | a :: b :: c :: rest =>
    base64Group (a.toNat * 65536 + b.toNat * 256 + c.toNat) 4 ++ base64 rest

end DirectorySearch
