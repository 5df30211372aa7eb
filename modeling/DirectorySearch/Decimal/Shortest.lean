import DirectorySearch.Decimal.Binary64

/-!
# The fewest digits that read back

A binary number is written with the fewest decimal digits that still round to it, and among the
decimals with that many digits with the one closest to it.  The decimals that round to `m · 2 ^ e`
form an interval around it: half a unit to each side, a quarter unit below a power of two, the ends
included exactly when `m` is even.

* `Interval` — that interval, over one common denominator, so that membership is a comparison of
  naturals.
* `Interval.pick?` — the multiple of `10 ^ k` in the interval closest to the number, if there is one.
* **`shortestDecimal`** — the first hit, from the coarsest grid that can have one downwards.

Only the number's two neighbours on a grid are tried: if any point of the grid lies in the interval,
one of these does.  Where both are equally far, `Tie` decides.
-/

namespace DirectorySearch

/-- Which of two equally close decimals is taken. -/
inductive Tie where
  /-- The larger one. -/
  | up
  /-- The one whose last digit is even. -/
  | even
deriving DecidableEq, Repr

/-- The decimals that round to a number, as multiples of `1 / den`. -/
structure Interval where
  /-- The lower end. -/
  low : Nat
  /-- The number itself. -/
  middle : Nat
  /-- The upper end. -/
  high : Nat
  /-- The common denominator. -/
  den : Nat
  /-- Whether the ends round to the number too. -/
  closed : Bool
deriving Repr

namespace Interval

/-- The interval of `m · 2 ^ e` in a format, in quarters of the unit `2 ^ e`. -/
def ofNumber (f : BinaryFormat) (m : Nat) (e : Int) : Interval :=
  let below := if m = Nat.pow 2 f.fractionBits ∧ f.minExponent < e then 1 else 2
  let scale := if 2 ≤ e then Nat.pow 2 (e - 2).toNat else 1
  { low := (4 * m - below) * scale
    middle := 4 * m * scale
    high := (4 * m + 2) * scale
    den := if 2 ≤ e then 1 else Nat.pow 2 (2 - e).toNat
    closed := m % 2 = 0 }

/-- Whether the point `c · unit / (den · scale)` lies in the interval. -/
def contains (i : Interval) (scale unit c : Nat) : Bool :=
  let p := c * unit
  (i.low * scale < p || i.closed && i.low * scale = p)
    && (p < i.high * scale || i.closed && p = i.high * scale)

/-- The multiple `c · 10 ^ k` in the interval that is closest to the number. -/
def pick? (i : Interval) (tie : Tie) (k : Int) : Option Nat :=
  let unit := i.den * Nat.pow 10 k.toNat
  let scale := Nat.pow 10 (-k).toNat
  let c := i.middle * scale / unit
  match i.contains scale unit c, i.contains scale unit (c + 1) with
  | true, true =>
    let below := i.middle * scale - c * unit
    let above := (c + 1) * unit - i.middle * scale
    if below < above then some c
    else if above < below then some (c + 1)
    else match tie with
      | .up => some (c + 1)
      | .even => some (if c % 2 = 0 then c else c + 1)
  | true, false => some c
  | false, true => some (c + 1)
  | false, false => none

/-- The number of decimal digits of a natural number. -/
def digitCount (n : Nat) : Nat := (Nat.toDigits 10 n).length

/-- An exponent whose power of ten is not below the upper end. -/
def topExponent (i : Interval) : Int :=
  let whole := i.high / i.den
  if whole = 0 then 1 - (digitCount (i.den / i.high) : Int) else digitCount whole

/-- Tries the grids `10 ^ k`, `10 ^ (k - 1)`, … in turn. -/
def search (i : Interval) (tie : Tie) : Nat → Int → Nat × Int
  | 0, k => (i.middle * Nat.pow 10 (-k).toNat / (i.den * Nat.pow 10 k.toNat), k)
  | n + 1, k =>
    match i.pick? tie k with
    | some c => (c, k)
    | none => search i tie n (k - 1)

end Interval

/-- **The shortest decimal** `c · 10 ^ k` that rounds to the positive number `m · 2 ^ e`, as the pair
of `c` and `k`.  Seventeen digits always suffice for a double and nine for a single, so twenty grids
are more than are ever tried. -/
def shortestDecimal (f : BinaryFormat) (tie : Tie) (m : Nat) (e : Int) : Nat × Int :=
  let i := Interval.ofNumber f m e
  i.search tie 20 i.topExponent

namespace Binary64

/-- The double with the shortest decimal of a single, so that a decimal written as a single keeps
its digits when it is written as a double. -/
def ofSingle (raw : UInt32) : Binary64 :=
  match BinaryFormat.single.decode raw.toNat with
  | .nan => nan
  | .infinite s => infinity s
  | .finite s 0 _ => zero s
  | .finite s m e =>
    let (c, k) := shortestDecimal .single .up m e
    ofDecimal s c k

end Binary64

end DirectorySearch
