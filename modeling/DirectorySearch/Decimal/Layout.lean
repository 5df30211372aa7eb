import DirectorySearch.Decimal.Shortest

/-!
# Writing doubles

A double is written in one of two layouts, which agree on the digits (`shortestDecimal`) up to ties
and differ in where the digits are put:

* `Binary64.plain` never uses an exponent and writes whole numbers without a point.
* `Binary64.scientific` keeps at least one digit after the point and changes to an exponent below
  `10 ^ -5` and from `10 ^ 16` on.
-/

namespace DirectorySearch

/-- The decimal digits of a natural number, the most significant first. -/
def decimalDigits (n : Nat) : List Char := Nat.toDigits 10 n

/-- The digits of `c · 10 ^ k` in positional notation, without a point if it is whole. -/
def positional (c : Nat) (k : Int) : List Char :=
  let digits := decimalDigits c
  let point := digits.length + k
  if 0 ≤ k then digits ++ List.replicate k.toNat '0'
  else if 0 < point then digits.take point.toNat ++ '.' :: digits.drop point.toNat
  else '0' :: '.' :: (List.replicate (-point).toNat '0' ++ digits)

/-- The digits of `c · 10 ^ k` with one digit before the point and a signed exponent. -/
def exponential (c : Nat) (k : Int) : List Char :=
  let digits := decimalDigits c
  let exponent := digits.length + k - 1
  let mantissa :=
    match digits with
    | d :: e :: rest => d :: '.' :: e :: rest
    | other => other
  let sign := if 0 ≤ exponent then '+' else '-'
  mantissa ++ 'e' :: sign :: decimalDigits exponent.natAbs

/-- A minus sign in front of a negative number. -/
def signed (negative : Bool) (text : List Char) : List Char :=
  if negative then '-' :: text else text

namespace Binary64

/-- The text of a finite double without exponent: whole numbers have no point, `-0` keeps its sign.
Of two decimals equally close the larger is taken. -/
def plain (x : Binary64) : List Char :=
  match x.number with
  | .finite s 0 _ => signed s ['0']
  | .finite s m e =>
    let (c, k) := shortestDecimal .double .up m e
    signed s (positional c k)
  | .infinite s => signed s ['i', 'n', 'f']
  | .nan => ['N', 'a', 'N']

/-- The text of a finite double in a JSON text: positional with a point from `10 ^ -5` up to below
`10 ^ 16`, with a signed exponent elsewhere.  Of two decimals equally close the even one is taken. -/
def scientific (x : Binary64) : List Char :=
  match x.number with
  | .finite s 0 _ => signed s ['0', '.', '0']
  | .finite s m e =>
    let (c, k) := shortestDecimal .double .even m e
    let point := (decimalDigits c).length + k
    signed s <|
      if -5 < point ∧ point ≤ 16 then
        if 0 ≤ k then positional c k ++ ['.', '0'] else positional c k
      else exponential c k
  | _ => ['n', 'u', 'l', 'l']

end Binary64

end DirectorySearch
