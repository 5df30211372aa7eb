/-!
# Punycode

A label of a domain name with letters beyond ASCII is carried as ASCII text: first its ASCII characters,
then, behind a hyphen, the others in ascending order, each as the number of places to go on from the
one before.  Numbers are written in digits of base 36 with a threshold for each place, which adapts to
the numbers seen so far.

* `Punycode.encode` — the ASCII text of a label.
* **`Punycode.decode?`** — the label of an ASCII text.

Both loops end without a bound of their own: a number gets smaller with each digit written, and the
text gets shorter with each digit read.
-/

namespace DirectorySearch.Punycode

/-! ## Digits and thresholds -/

/-- The digit of a value below 36: letters first. -/
def digit (n : Nat) : Char :=
  if n < 26 then Char.ofNat ('a'.toNat + n) else Char.ofNat ('0'.toNat + (n - 26))

/-- The value of a digit; letters of either case count the same. -/
def digitValue? (c : Char) : Option Nat :=
  if 'a' ≤ c && c ≤ 'z' then some (c.toNat - 'a'.toNat)
  else if 'A' ≤ c && c ≤ 'Z' then some (c.toNat - 'A'.toNat)
  else if c.isDigit then some (c.toNat - '0'.toNat + 26)
  else none

/-- The threshold at place `k`, which counts in steps of 36. -/
def threshold (k bias : Nat) : Nat :=
  if k ≤ bias then 1 else if bias + 26 ≤ k then 26 else k - bias

theorem threshold_pos (k bias : Nat) : 1 ≤ threshold k bias := by
  unfold threshold
  split
  · omega
  · split <;> omega

theorem threshold_le (k bias : Nat) : threshold k bias ≤ 26 := by
  unfold threshold
  split
  · omega
  · split <;> omega

/-- The bias that belongs to a number once it has been scaled. -/
def biasOf (delta k : Nat) : Nat :=
  if 455 < delta then biasOf (delta / 35) (k + 36) else k + 36 * delta / (delta + 38)
termination_by delta
decreasing_by exact Nat.div_lt_self (by omega) (by omega)

/-- The bias after a number, of so many characters so far. -/
def adapt (delta points : Nat) (first : Bool) : Nat :=
  let delta := if first then delta / 700 else delta / 2
  biasOf (delta + delta / points) 0

/-! ## Encoding -/

/-- The digits of a number from place `k` on. -/
def numberDigits (bias k n : Nat) : List Char :=
  let t := threshold k bias
  if n < t then [digit n]
  else digit (t + (n - t) % (36 - t)) :: numberDigits bias (k + 36) ((n - t) / (36 - t))
termination_by n
decreasing_by
  have h₁ := threshold_pos k bias
  have h₂ := threshold_le k bias
  have h₃ := Nat.div_le_self (n - threshold k bias) (36 - threshold k bias)
  omega

/-- What is known while a label is written. -/
structure Progress where
  /-- The digits written. -/
  written : List Char
  /-- The places passed since the last character that was written. -/
  delta : Nat
  /-- The bias. -/
  bias : Nat
  /-- The characters that are done. -/
  handled : Nat

/-- One character of the label passed, while those equal to `m` are written. -/
def passCharacter (basics m : Nat) (p : Progress) (c : Char) : Progress :=
  if c.toNat < m then { p with delta := p.delta + 1 }
  else if c.toNat = m then
    { written := p.written ++ numberDigits p.bias 36 p.delta
      delta := 0
      bias := adapt p.delta (p.handled + 1) (p.handled == basics)
      handled := p.handled + 1 }
  else p

/-- Writes the characters beyond ASCII in ascending order; `n` is where the order has come to. -/
def writePoints (label : List Char) (basics : Nat) : Nat → List Nat → Progress → Progress
  | _, [], p => p
  | n, m :: rest, p =>
    let p := { p with delta := p.delta + (m - n) * (p.handled + 1) }
    let p := label.foldl (passCharacter basics m) p
    writePoints label basics (m + 1) rest { p with delta := p.delta + 1 }

/-- The ASCII text of a label. -/
def encode (label : List Char) : List Char :=
  let basic := label.filter (·.toNat < 128)
  let points := ((label.filter (128 ≤ ·.toNat)).map Char.toNat).mergeSort.eraseDups
  let front := if basic.isEmpty then [] else basic ++ ['-']
  let start : Progress := { written := [], delta := 0, bias := 72, handled := basic.length }
  front ++ (writePoints label basic.length 128 points start).written

/-! ## Decoding -/

/-- A number in front of a text: its value from place `k` on, added to what was read before. -/
def readNumber? (bias : Nat) : Nat → Nat → Nat → List Char → Option (Nat × List Char)
  | _, _, _, [] => none
  | value, weight, k, c :: rest =>
    match digitValue? c with
    | none => none
    | some d =>
      let t := threshold k bias
      if d < t then some (value + d * weight, rest)
      else readNumber? bias (value + d * weight) (weight * (36 - t)) (k + 36) rest

theorem readNumber?_length {bias value weight k n : Nat} {text rest : List Char}
    (h : readNumber? bias value weight k text = some (n, rest)) : rest.length < text.length := by
  induction text generalizing value weight k with
  | nil => simp [readNumber?] at h
  | cons c cs ih =>
    simp only [readNumber?] at h
    split at h
    · simp at h
    · split at h
      · simp only [Option.some.injEq, Prod.mk.injEq] at h
        rw [← h.2]
        simp
      · have := ih h
        simp only [List.length_cons]
        omega

/-- Puts the characters beyond ASCII in their places. -/
def insertPoints? (label : List Char) (n place bias : Nat) (text : List Char) : Option (List Char) :=
  if text = [] then some label
  else
    match _h : readNumber? bias 0 1 36 text with
    | none => none
    | some (delta, rest) =>
      let size := label.length + 1
      let m := n + (place + delta) / size
      let spot := (place + delta) % size
      if m.isValidChar then
        insertPoints? (label.insertIdx spot (Char.ofNat m)) m (spot + 1) (adapt delta size (place == 0))
          rest
      else none
termination_by text.length
decreasing_by exact readNumber?_length _h

/-- **The label of an ASCII text**, if it is the text of one. -/
def decode? (text : List Char) : Option (List Char) :=
  let points := (text.reverse.takeWhile (· ≠ '-')).reverse
  let basic := (text.take (text.length - points.length)).dropLast
  insertPoints? basic 128 0 72 points

end DirectorySearch.Punycode
