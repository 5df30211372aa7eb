import DirectorySearch.Text.Unprintable

/-!
# Texts shown for diagnosis

Where a text is shown to find a fault, it stands in quotes and everything that could mislead the eye
is escaped: quotes, backslashes, line ends, and each character without a shape of its own, which is
shown by its number.

* `diagnosticQuote` — a text in this form.
* `diagnosticOption` — the same for a text that may be missing.
-/

namespace DirectorySearch

/-- A character inside a diagnostic text. -/
def diagnosticChar (c : Char) : List Char :=
  if c = '"' then ['\\', '"']
  else if c = '\\' then ['\\', '\\']
  else if c = '\n' then ['\\', 'n']
  else if c = '\r' then ['\\', 'r']
  else if c = '\t' then ['\\', 't']
  else if c.toNat = 0 then ['\\', '0']
  else if isUnprintable c then
    ['\\', 'u', '\x7b'] ++ Nat.toDigits 16 c.toNat ++ ['\x7d']
  else [c]

/-- A text in diagnostic form. -/
def diagnosticQuote (s : String) : String :=
  String.ofList ('"' :: (s.toList.flatMap diagnosticChar ++ ['"']))

/-- A text that may be missing, in diagnostic form. -/
def diagnosticOption : Option String → String
  | none => "None"
  | some s => "Some(" ++ diagnosticQuote s ++ ")"

end DirectorySearch
