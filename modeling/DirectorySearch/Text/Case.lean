/-!
# Letters of either case

Keywords are recognised whatever the case of their letters, and only the 26 ASCII letters have one
here: `ſ` is no `s`.

* `foldCase` — a text with its ASCII letters in lower case.
* `sameIgnoringCase` — equality of texts up to that.
-/

namespace DirectorySearch

/-- A text with its ASCII letters in lower case. -/
def foldCase (text : List Char) : List Char := text.map Char.toLower

/-- Whether two texts differ at most in the case of ASCII letters. -/
def sameIgnoringCase (a b : List Char) : Bool := foldCase a == foldCase b

theorem sameIgnoringCase_iff {a b : List Char} :
    sameIgnoringCase a b = true ↔ foldCase a = foldCase b := by
  simp [sameIgnoringCase]

theorem sameIgnoringCase_refl (a : List Char) : sameIgnoringCase a a = true := by
  simp [sameIgnoringCase]

end DirectorySearch
