import DirectorySearch.Proofs.Decimal.Plain
import DirectorySearch.Proofs.Filter.Expression
import DirectorySearch.Proofs.Filter.Quoted

/-!
# A reader of filters

The grammar of filters, read from left to right.  Keywords are read in either case, `not` binds
tightest, then `and`, then `or`, and parentheses group.

* `readLiteral?`, `readTest?`, `readFactor?` — a value, an attribute test, and a test or a filter in
  parentheses.
* `readChain?` — things of one kind, joined by one connector.
* **`readExpression?`** — a whole text as a filter.

Value paths in brackets are left out; no clause holds one.

The reader knows nothing of how a filter was written: where a test or a literal ends is decided by the
text alone.  What a text is read as therefore depends on what follows it, and the lemmas below all have
the same form: a text is `ReadAs` a thing if it is read as that thing before any rest that ends a word.
-/

namespace DirectorySearch

/-! ## The grammar -/

/-- What reads a thing off the front of a text. -/
abbrev TextReader (α : Type) := List Char → Option (α × List Char)

/-- A text without the word it starts with, in either case. -/
def cutWord? (word text : List Char) : Option (List Char) :=
  if sameIgnoringCase (text.take word.length) word then some (text.drop word.length) else none

/-- Reads a value. -/
def readLiteral? (lax : Bool) : TextReader Literal
  | 't' :: 'r' :: 'u' :: 'e' :: rest => some (.bool true, rest)
  | 'f' :: 'a' :: 'l' :: 's' :: 'e' :: rest => some (.bool false, rest)
  | 'n' :: 'u' :: 'l' :: 'l' :: rest => some (.null, rest)
  | '"' :: rest => (readQuoted? lax ('"' :: rest)).map fun r => (.string r.1, r.2)
  | text => (Written.readNumber? text).map fun r => (.number (String.ofList r.1.characters), r.2)

/-- Reads an attribute path. -/
def readAttribute? (text : List Char) : Option (String × List Char) :=
  let attr := String.ofList (text.takeWhile isPathChar)
  if isAttributePath attr then some (attr, text.dropWhile isPathChar) else none

/-- Reads an operator. -/
def readOperator? : TextReader Operator
  | a :: b :: rest => (Operator.parse? (String.ofList [a, b])).map (·, rest)
  | _ => none

/-- Reads the test of an attribute: `attribute pr`, or `attribute operator value`. -/
def readTest? (lax : Bool) (text : List Char) : Option (FilterExpr × List Char) := do
  let (attr, text) ← readAttribute? text
  let text ← cutWord? [' '] text
  let (operator, text) ← readOperator? text
  if operator = .pr then
    return (.present attr, text)
  let text ← cutWord? [' '] text
  let (value, text) ← readLiteral? lax text
  return (.test attr operator value, text)

/-- Reads a filter whose opening parenthesis has been read, and the closing one. -/
def readClosed? (inner : TextReader FilterExpr) (text : List Char) :
    Option (FilterExpr × List Char) := do
  let (e, text) ← inner text
  let text ← cutWord? [')'] text
  return (e, text)

/-- Reads a test, a filter in parentheses or a negated filter. -/
def readFactor? (lax : Bool) (inner : TextReader FilterExpr) (text : List Char) :
    Option (FilterExpr × List Char) :=
  match cutWord? ['n', 'o', 't', ' ', '('] text with
  | some text => (readClosed? inner text).map fun r => (.negation r.1, r.2)
  | none =>
    match cutWord? ['('] text with
    | some text => (readClosed? inner text).map fun r => (.group r.1, r.2)
    | none => readTest? lax text

/-- Reads a connector with a space on either side. -/
def cutConnective? (c : Connector) (text : List Char) : Option (List Char) :=
  cutWord? (' ' :: (c.keyword.toList ++ [' '])) text

/-- Reads one or more things joined by a connector; there are at most as many as the bound says. -/
def readChain? (c : Connector) (join : FilterExpr → FilterExpr → FilterExpr)
    (item : TextReader FilterExpr) : Nat → TextReader FilterExpr
  | 0, _ => none
  | bound + 1, text =>
    match item text with
    | none => none
    | some (e, text) =>
      match cutConnective? c text with
      | none => some (e, text)
      | some text => (readChain? c join item bound text).map fun r => (join e r.1, r.2)

/-- Reads things joined by `and` into runs, and runs joined by `or`.  A text has no more joined things
than characters, and one thing more. -/
def readJoined? (item : TextReader FilterExpr) (text : List Char) :
    Option (FilterExpr × List Char) :=
  readChain? .either .either
    (fun text => readChain? .both .both item (text.length + 1) text) (text.length + 1) text

/-- Reads a filter whose parentheses are nested less deeply than the bound says. -/
def readFilter? (lax : Bool) : Nat → TextReader FilterExpr
  | 0, _ => none
  | depth + 1, text => readJoined? (readFactor? lax (readFilter? lax depth)) text

/-- **Reads a whole text as a filter.** -/
def readExpression? (lax : Bool) (text : String) : Option FilterExpr :=
  match readFilter? lax (text.toList.length + 1) text.toList with
  | some (e, []) => some e
  | _ => none

/-! ## Where a word ends -/

/-- Rests in front of which a word ends. -/
def EndsWord (rest : List Char) : Prop := ∀ c ∈ rest.head?, c = ' ' ∨ c = ')'

/-- Rests in front of which a filter ends. -/
def EndsFilter (rest : List Char) : Prop := ∀ c ∈ rest.head?, c = ')'

lemma EndsFilter.endsWord {rest : List Char} (h : EndsFilter rest) : EndsWord rest :=
  fun c hc => Or.inr (h c hc)

lemma endsWord_space (rest : List Char) : EndsWord (' ' :: rest) := by
  simp [EndsWord]

lemma endsFilter_nil : EndsFilter [] := by
  simp [EndsFilter]

lemma endsFilter_closed (rest : List Char) : EndsFilter (')' :: rest) := by
  simp [EndsFilter]

/-- A text is read as a thing, whatever follows it. -/
def ReadAs {α : Type} (read : TextReader α) (text : List Char) (a : α) : Prop :=
  ∀ rest, EndsWord rest → read (text ++ rest) = some (a, rest)

/-! ## Words -/

lemma cutWord?_append (word rest : List Char) : cutWord? word (word ++ rest) = some rest := by
  simp [cutWord?, sameIgnoringCase_refl]

lemma cutWord?_singleton (c : Char) (rest : List Char) : cutWord? [c] (c :: rest) = some rest :=
  cutWord?_append [c] rest

/-- What differs from a letter in lower case at most by case is that letter, if it is none. -/
lemma eq_of_toLower_eq {c d : Char} (hd : d.toNat < 97) (h : c.toLower = d) : c = d := by
  delta Char.toLower at h
  split at h
  · next hc =>
    have hlow : 65 ≤ c.val.toNat := UInt32.le_iff_toNat_le.mp hc.1
    have hhigh : c.val.toNat ≤ 90 := UInt32.le_iff_toNat_le.mp hc.2
    have hval : d.toNat = (c.val.toNat + 32) % 2 ^ 32 := by
      rw [← h]
      exact UInt32.toNat_add _ _
    omega
  · exact h

lemma toLower_of_isDigit {c : Char} (h : c.isDigit = true) : c.toLower = c := by
  have hhigh : c.val.toNat ≤ 57 := by
    simp only [Char.isDigit, Bool.and_eq_true, decide_eq_true_eq] at h
    exact UInt32.le_iff_toNat_le.mp h.2
  delta Char.toLower
  split
  · next hc =>
    have hlow : 65 ≤ c.val.toNat := UInt32.le_iff_toNat_le.mp hc.1
    omega
  · rfl

/-- A number does not start like a connector. -/
lemma NumberText.IsJson.exists_head {t : NumberText} (h : t.IsJson) :
    ∃ c cs, t.characters = c :: cs ∧ c.toLower ≠ 'a' ∧ c.toLower ≠ 'o' := by
  obtain ⟨c, cs, hcs, hc⟩ := NumberText.exists_characters_cons h.leading h.whole_digits
  refine ⟨c, cs, hcs, ?_⟩
  rcases hc with rfl | hc
  · decide
  · rw [toLower_of_isDigit hc]
    constructor <;>
      · rintro rfl
        exact absurd hc (by decide)

lemma cutWord?_eq_none {word text : List Char} {c : Char}
    (h : ∀ d ∈ text.head?, d.toLower ≠ c.toLower) : cutWord? (c :: word) text = none := by
  cases text with
  | nil => simp [cutWord?, sameIgnoringCase, foldCase]
  | cons d text =>
      have hd := h d rfl
      simp [cutWord?, sameIgnoringCase, foldCase, hd]

lemma cutConnective?_append (c : Connector) (rest : List Char) :
    cutConnective? c (' ' :: (c.keyword.toList ++ ' ' :: rest)) = some rest := by
  have h := cutWord?_append (' ' :: (c.keyword.toList ++ [' '])) rest
  rw [List.cons_append, List.append_assoc, List.singleton_append] at h
  exact h

lemma cutConnective?_other {c d : Connector} (h : c ≠ d) (rest : List Char) :
    cutConnective? c (' ' :: (d.keyword.toList ++ ' ' :: rest)) = none := by
  cases c <;> cases d <;>
    first
      | exact absurd rfl h
      | (cases rest <;>
          simp [cutConnective?, cutWord?, sameIgnoringCase, foldCase, Connector.keyword])

lemma cutConnective?_end (c : Connector) {rest : List Char} (h : EndsFilter rest) :
    cutConnective? c rest = none :=
  cutWord?_eq_none fun d hd => by
    rw [h d hd]
    decide

/-- The fifth character of `not (` is not what follows an attribute path and a space. -/
lemma cutWord?_not_path {attr rest : List Char} (hattr : ∀ c ∈ attr, isPathChar c = true)
    (hrest : ∀ c ∈ rest.head?, c ≠ '(') :
    cutWord? ['n', 'o', 't', ' ', '('] (attr ++ ' ' :: rest) = none := by
  have hspace : ∀ c : Char, c.toLower = ' ' → isPathChar c = false := fun c hc => by
    rw [eq_of_toLower_eq (by decide) hc]
    rfl
  rw [cutWord?, if_neg]
  rw [sameIgnoringCase_iff]
  match attr, hattr with
  | [], _ => simp [foldCase]
  | [a], _ => simp [foldCase]
  | [a, b], _ => simp [foldCase]
  | [a, b, c], _ =>
      cases rest with
      | nil => simp [foldCase]
      | cons d rest =>
          have hd := hrest d rfl
          intro h
          simp [foldCase] at h
          exact hd (eq_of_toLower_eq (by decide) h.2.2.2)
  | a :: b :: c :: d :: attr, hattr =>
      have hd := hattr d (by simp)
      intro h
      simp [foldCase] at h
      exact absurd (hspace d h.2.2.2.1) (by simp [hd])

/-! ## Literals -/

lemma readLiteral?_string {lax : Bool} {s : String}
    (h : (FilterValue.string s).isReadable lax = true) :
    ReadAs (readLiteral? lax) (stringLiteral s.toList) (.string s) := by
  intro rest _
  have hread := (readQuoted?_literal_iff lax s rest).mpr (by
    simpa [FilterValue.isReadable, List.all_eq_true] using h)
  rw [FilterValue.literal, String.toList_ofList] at hread
  rw [stringLiteral, List.cons_append] at hread ⊢
  rw [readLiteral?, hread, Option.map_some]

lemma readLiteral?_number (lax : Bool) {t : NumberText} (h : t.IsPlain) :
    ReadAs (readLiteral? lax) t.characters (.number (String.ofList t.characters)) := by
  intro rest hrest
  have hread : Written.readNumber? (t.characters ++ rest) = some (t, rest) :=
    readNumber?_characters h.isJson fun c hc => by
      rcases hrest c hc with rfl | rfl <;> decide
  obtain ⟨c, tail, hc, hhead⟩ := NumberText.exists_characters_cons h.leading h.whole_digits
  rw [hc, List.cons_append] at hread ⊢
  rw [readLiteral?, hread, Option.map_some, hc]
  all_goals
    intro _ hcons
    rw [(List.cons.inj hcons).1] at hhead
    exact absurd hhead (by decide)

/-- **A value is read back from its literal.** -/
lemma readLiteral?_literal {lax : Bool} {v : FilterValue} (h : v.isReadable lax = true) :
    ReadAs (readLiteral? lax) v.literal.toList v.denoted := by
  cases v with
  | bool b => cases b <;> exact fun _ _ => rfl
  | integer n =>
      obtain ⟨t, ht, htext⟩ := exists_isPlain_integerText n
      rw [FilterValue.literal, FilterValue.denoted, String.toList_ofList, ← htext]
      exact readLiteral?_number lax ht
  | float x =>
      rw [FilterValue.literal, FilterValue.denoted, String.toList_ofList, doubleLiteral]
      cases hx : x.number with
      | finite negative m e =>
          obtain ⟨t, ht, htext⟩ := exists_isPlain_plain hx
          simp only
          rw [← htext]
          exact readLiteral?_number lax ht
      | nan => exact readLiteral?_string (s := "NaN") (by cases lax <;> decide)
      | infinite negative =>
          cases negative with
          | false => exact readLiteral?_string (s := "Infinity") (by cases lax <;> decide)
          | true => exact readLiteral?_string (s := "-Infinity") (by cases lax <;> decide)
  | string s =>
      rw [FilterValue.literal, FilterValue.denoted, String.toList_ofList]
      exact readLiteral?_string h
  | raw expression => simp [FilterValue.isReadable] at h

/-! ## Tests -/

lemma isPathChar_of_mem {attr : String} (h : isAttributePath attr = true) :
    ∀ c ∈ attr.toList, isPathChar c = true := by
  rw [isAttributePath] at h
  split at h
  · next c cs hattr =>
    rw [Bool.and_eq_true, List.all_eq_true] at h
    intro d hd
    rw [hattr] at hd
    rcases List.mem_cons.mp hd with rfl | hd
    · simp [isPathChar, Char.isAlphanum, h.1]
    · exact h.2 d hd
  · simp at h

lemma readAttribute?_append {attr : String} (h : isAttributePath attr = true) (rest : List Char) :
    readAttribute? (attr.toList ++ ' ' :: rest) = some (attr, ' ' :: rest) := by
  have hstop : ∀ c ∈ (' ' :: rest).head?, isPathChar c = false := by
    simp only [List.head?_cons, Option.mem_def, Option.some.injEq, forall_eq']
    decide
  obtain ⟨htake, hdrop⟩ := takeWhile_append_of_stop (isPathChar_of_mem h) hstop
  rw [readAttribute?, htake, hdrop, String.ofList_toList, if_pos h]

lemma readOperator?_keyword (operator : Operator) (rest : List Char) :
    readOperator? (operator.keyword.toList ++ rest) = some (operator, rest) := by
  cases operator <;> rfl

lemma readTest?_comparison {lax : Bool} {attr : String} {operator : Operator} {v : FilterValue}
    (hattr : isAttributePath attr = true) (hop : operator ≠ .pr) (hv : v.isReadable lax = true) :
    ReadAs (readTest? lax) (attr ++ " " ++ operator.keyword ++ " " ++ v.literal).toList
      (.test attr operator v.denoted) := by
  intro rest hrest
  have htext : (attr ++ " " ++ operator.keyword ++ " " ++ v.literal).toList ++ rest
      = attr.toList ++ ' ' :: (operator.keyword.toList ++ ' ' :: (v.literal.toList ++ rest)) := by
    simp
  rw [htext, readTest?, readAttribute?_append hattr]
  simp [cutWord?_singleton, readOperator?_keyword, hop, readLiteral?_literal hv rest hrest]

lemma readTest?_presence (lax : Bool) {attr : String} (hattr : isAttributePath attr = true) :
    ReadAs (readTest? lax) (attr ++ " pr").toList (.present attr) := by
  intro rest hrest
  have htext : (attr ++ " pr").toList ++ rest
      = attr.toList ++ ' ' :: (Operator.pr.keyword.toList ++ rest) := by
    simp [Operator.keyword]
  rw [htext, readTest?, readAttribute?_append hattr]
  simp [cutWord?_singleton, readOperator?_keyword]

end DirectorySearch
