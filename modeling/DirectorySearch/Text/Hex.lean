/-!
# Hexadecimal digits

* `hexValue?` — the value of a digit of either case.
* `lowerHexDigit`, `upperHexDigit` — the digit of a value, taken modulo sixteen.
-/

namespace DirectorySearch

/-- The value of a hexadecimal digit of either case. -/
def hexValue? (c : Char) : Option Nat :=
  if c.isDigit then some (c.toNat - '0'.toNat)
  else if 'a' ≤ c && c ≤ 'f' then some (c.toNat - 'a'.toNat + 10)
  else if 'A' ≤ c && c ≤ 'F' then some (c.toNat - 'A'.toNat + 10)
  else none

/-- A hexadecimal digit in lower case. -/
def lowerHexDigit (n : Nat) : Char := Nat.digitChar (n % 16)

/-- A hexadecimal digit in upper case. -/
def upperHexDigit (n : Nat) : Char := (Nat.digitChar (n % 16)).toUpper

theorem hexValue?_lowerHexDigit {n : Nat} (h : n < 16) : hexValue? (lowerHexDigit n) = some n := by
  have all : ∀ m < 16, hexValue? (lowerHexDigit m) = some m := by decide
  exact all n h

theorem hexValue?_upperHexDigit {n : Nat} (h : n < 16) : hexValue? (upperHexDigit n) = some n := by
  have all : ∀ m < 16, hexValue? (upperHexDigit m) = some m := by decide
  exact all n h

end DirectorySearch
