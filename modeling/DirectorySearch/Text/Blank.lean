/-!
# Blank text

Whether a text is blank is asked of names, of attribute names and of reply bodies, and the answer
counts every character with the Unicode property White_Space, not only the ASCII ones.

* `isBlank` — that property.
* `trim` — a text without the blank characters at its ends.
-/

namespace DirectorySearch

/-- The characters with the property White_Space. -/
def isBlank (c : Char) : Bool :=
  let n := c.toNat
  (0x09 ≤ n && n ≤ 0x0d) || n == 0x20 || n == 0x85 || n == 0xa0 || n == 0x1680
    || (0x2000 ≤ n && n ≤ 0x200a) || n == 0x2028 || n == 0x2029 || n == 0x202f || n == 0x205f
    || n == 0x3000

/-- Every character that core counts as white space is blank. -/
theorem isBlank_of_isWhitespace {c : Char} (h : c.isWhitespace = true) : isBlank c = true := by
  simp only [Char.isWhitespace, Bool.or_eq_true, decide_eq_true_eq] at h
  rcases h with ((h | h) | h) | h <;> subst h <;> decide

/-- A text without the blank characters in front. -/
def trimStart (text : List Char) : List Char := text.dropWhile isBlank

/-- A text without the blank characters at either end. -/
def trim (text : List Char) : List Char := (trimStart (trimStart text).reverse).reverse

end DirectorySearch
