/-!
# Binary floating point numbers, by their bits

A double is kept as its 64 bits and read as an exact dyadic rational `m · 2 ^ e`, so that every
operation here is arithmetic on natural numbers and a proof can follow it.  What is rounded is
rounded in one place:

* `BinaryFormat.decode` — the bits of a number as not-a-number, infinity, or a signed `m · 2 ^ e`.
* **`BinaryFormat.nearest`** — the bits of the number closest to a quotient of naturals, the even
  one of two that are equally close; too large a quotient becomes infinity.
* `Binary64` — doubles, with the few operations the library needs: product, quotient, rounding to
  an integer, and the double of a decimal.

Single precision appears only as a source of numbers, through its `BinaryFormat`.
-/

namespace DirectorySearch

/-- Where the fields of a binary interchange format lie. -/
structure BinaryFormat where
  /-- Bits of the fraction field. -/
  fractionBits : Nat
  /-- Bits of the exponent field. -/
  exponentBits : Nat
deriving DecidableEq, Repr

/-- What the bits of a number stand for. -/
inductive BinaryNumber where
  /-- Not a number. -/
  | nan
  /-- An infinity. -/
  | infinite (negative : Bool)
  /-- The number `± significand · 2 ^ exponent`. -/
  | finite (negative : Bool) (significand : Nat) (exponent : Int)
deriving DecidableEq, Repr

namespace BinaryFormat

/-- Double precision. -/
def double : BinaryFormat := ⟨52, 11⟩

/-- Single precision. -/
def single : BinaryFormat := ⟨23, 8⟩

/-- The exponent of the smallest positive number, which every subnormal number shares. -/
def minExponent (f : BinaryFormat) : Int :=
  2 - Nat.pow 2 (f.exponentBits - 1) - f.fractionBits

/-- The bits of positive infinity: all ones in the exponent, nothing in the fraction. -/
def infinityBits (f : BinaryFormat) : Nat :=
  (Nat.pow 2 f.exponentBits - 1) * Nat.pow 2 f.fractionBits

/-- The bit that carries the sign. -/
def signBit (f : BinaryFormat) : Nat := Nat.pow 2 (f.fractionBits + f.exponentBits)

/-- Reads the three fields of a number. -/
def decode (f : BinaryFormat) (raw : Nat) : BinaryNumber :=
  let fraction := raw % Nat.pow 2 f.fractionBits
  let biased := raw / Nat.pow 2 f.fractionBits % Nat.pow 2 f.exponentBits
  let negative := raw / f.signBit % 2 == 1
  if biased = Nat.pow 2 f.exponentBits - 1 then
    if fraction = 0 then .infinite negative else .nan
  else if biased = 0 then .finite negative fraction f.minExponent
  else .finite negative (fraction + Nat.pow 2 f.fractionBits) (f.minExponent + biased - 1)

end BinaryFormat

/-! ## Rounding a quotient -/

/-- The integer closest to `num / den`, the even one of two that are equally close. -/
def roundHalfEven (num den : Nat) : Nat :=
  let q := num / den
  let r := num % den
  if den < 2 * r ∨ (2 * r = den ∧ q % 2 = 1) then q + 1 else q

/-- The quotient `num / den` divided by `2 ^ e`, again as a quotient. -/
def dividePowerOfTwo (num den : Nat) (e : Int) : Nat × Nat :=
  if 0 ≤ e then (num, den * Nat.pow 2 e.toNat) else (num * Nat.pow 2 (-e).toNat, den)

/-- The largest `k` with `2 ^ k ≤ num / den`, for positive `num` and `den`. -/
def floorLog2 (num den : Nat) : Int :=
  let k : Int := (Nat.log2 num : Int) - Nat.log2 den
  let (n, d) := dividePowerOfTwo num den k
  if d ≤ n then k else k - 1

/-- **The nearest number of a format.**  The bits, without sign, of the number closest to
`num / den`.  The significand is cut at the format's width or at the smallest exponent,
whichever comes first; a significand that rounds up to the next power of two carries into the
exponent field by itself, and past the largest number the bits are those of infinity. -/
def BinaryFormat.nearest (f : BinaryFormat) (num den : Nat) : Nat :=
  if num = 0 then 0
  else
    let e := max f.minExponent (floorLog2 num den - f.fractionBits)
    let (n, d) := dividePowerOfTwo num den e
    min ((e - f.minExponent).toNat * Nat.pow 2 f.fractionBits + roundHalfEven n d) f.infinityBits

/-! ## Doubles -/

/-- A double-precision number, equal to another exactly when their bits are. -/
structure Binary64 where
  /-- Sign, exponent and fraction, from the most significant bit down. -/
  bits : UInt64
deriving DecidableEq, Repr, Inhabited

namespace Binary64

/-- What the number stands for. -/
def number (x : Binary64) : BinaryNumber := BinaryFormat.double.decode x.bits.toNat

/-- The number with the given sign and the given remaining bits. -/
def ofMagnitude (negative : Bool) (raw : Nat) : Binary64 :=
  ⟨(if negative then raw + BinaryFormat.double.signBit else raw).toUInt64⟩

/-- The quiet not-a-number. -/
def nan : Binary64 := ⟨0x7ff8000000000000⟩

/-- Zero of either sign. -/
def zero (negative : Bool) : Binary64 := ofMagnitude negative 0

/-- Infinity of either sign. -/
def infinity (negative : Bool) : Binary64 := ofMagnitude negative BinaryFormat.double.infinityBits

/-- The double nearest to `± num / den`. -/
def ofRatio (negative : Bool) (num den : Nat) : Binary64 :=
  ofMagnitude negative (BinaryFormat.double.nearest num den)

/-- The double nearest to a natural number. -/
def ofNat (n : Nat) : Binary64 := ofRatio false n 1

/-- The double nearest to `± digits · 10 ^ exponent`. -/
def ofDecimal (negative : Bool) (digits : Nat) (exponent : Int) : Binary64 :=
  if 0 ≤ exponent then ofRatio negative (digits * Nat.pow 10 exponent.toNat) 1
  else ofRatio negative digits (Nat.pow 10 (-exponent).toNat)

/-- The double nearest to `± num / den · 2 ^ e`. -/
def ofScaled (negative : Bool) (num den : Nat) (e : Int) : Binary64 :=
  let (n, d) := dividePowerOfTwo num den (-e)
  ofRatio negative n d

/-- Whether this is not a number. -/
def isNaN (x : Binary64) : Bool := x.number = .nan

/-- Whether this is an infinity. -/
def isInfinite (x : Binary64) : Bool :=
  match x.number with
  | .infinite _ => true
  | _ => false

/-- Whether this is zero, of either sign. -/
def isZero (x : Binary64) : Bool :=
  match x.number with
  | .finite _ 0 _ => true
  | _ => false

/-- The number with its sign turned. -/
def neg (x : Binary64) : Binary64 := ⟨x.bits ^^^ 0x8000000000000000⟩

/-- The rounded product. -/
def mul (x y : Binary64) : Binary64 :=
  match x.number, y.number with
  | .finite s m e, .finite t n f => ofScaled (s ^^ t) (m * n) 1 (e + f)
  | .infinite s, .infinite t => infinity (s ^^ t)
  | .infinite s, .finite t n _ => if n = 0 then nan else infinity (s ^^ t)
  | .finite s m _, .infinite t => if m = 0 then nan else infinity (s ^^ t)
  | _, _ => nan

/-- The rounded quotient. -/
def div (x y : Binary64) : Binary64 :=
  match x.number, y.number with
  | .finite s m e, .finite t n f =>
    if n = 0 then (if m = 0 then nan else infinity (s ^^ t))
    else ofScaled (s ^^ t) m n (e - f)
  | .infinite s, .finite t _ _ => infinity (s ^^ t)
  | .finite s _ _, .infinite t => zero (s ^^ t)
  | _, _ => nan

/-- The nearest integer, the one further from zero of two that are equally near; the sign stays,
also on zero. -/
def roundAway (x : Binary64) : Binary64 :=
  match x.number with
  | .finite s m e =>
    if 0 ≤ e then x
    else
      let unit := Nat.pow 2 (-e).toNat
      ofRatio s ((2 * m + unit) / (2 * unit)) 1
  | _ => x

end Binary64

end DirectorySearch
