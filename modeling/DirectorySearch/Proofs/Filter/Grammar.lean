import DirectorySearch.Proofs.Filter.RoundTrip

/-!
# The grammar of filters

What a filter may look like, said without a reader: the sentences are generated, so that a text can be
shown to be none of them.

* `IsQuoted`, `IsLiteral` — the literals, which are those of JSON.
* **`IsSentence`** — the sentences.  The operator `pr` stands behind an attribute and ends the test;
  every other operator is followed by exactly one literal.
* `isLiteral_literal`, `isSentence_clause` — what is written for a readable value is a literal, and for
  a readable condition a sentence, by recursion over the tree.
* **`isSentence_filter`** — so is the filter of readable conditions.

The standard writes `not` right in front of its parenthesis and has a space there in its examples; both
are sentences.  Keywords are taken in either case, the words of the literals only as they are.
-/

namespace DirectorySearch

/-! ## Literals -/

/-- The characters between the quotes of a string. -/
inductive IsQuoted : List Char → Prop
  | nil : IsQuoted []
  | bare {c : Char} {text : List Char} (hc : 0x20 ≤ c.toNat) (hq : c ≠ '"') (hb : c ≠ '\\')
      (h : IsQuoted text) : IsQuoted (c :: text)
  | escape {c e : Char} {text : List Char} (hc : Written.escape? c = some e) (h : IsQuoted text) :
      IsQuoted ('\\' :: c :: text)
  | unit {a b c d : Char} {u : Nat} {text : List Char} (hu : Written.hexUnit? a b c d = some u)
      (h : IsQuoted text) : IsQuoted ('\\' :: 'u' :: a :: b :: c :: d :: text)

/-- What stands behind an operator. -/
inductive IsLiteral : List Char → Prop
  | null : IsLiteral ['n', 'u', 'l', 'l']
  | true : IsLiteral ['t', 'r', 'u', 'e']
  | false : IsLiteral ['f', 'a', 'l', 's', 'e']
  | number {t : NumberText} (h : t.IsJson) : IsLiteral t.characters
  | string {text : List Char} (h : IsQuoted text) : IsLiteral ('"' :: (text ++ ['"']))

/-! ## Sentences -/

/-- **A sentence of the grammar.**  Inside the brackets of an attribute there are no more brackets. -/
inductive IsSentence : Bool → List Char → Prop
  | present {inBrackets : Bool} {attr : String} {keyword : List Char}
      (hattr : isAttributePath attr = true)
      (hkeyword : Operator.parse? (String.ofList keyword) = some .pr) :
      IsSentence inBrackets (attr.toList ++ ' ' :: keyword)
  | test {inBrackets : Bool} {attr : String} {operator : Operator} {keyword value : List Char}
      (hattr : isAttributePath attr = true)
      (hkeyword : Operator.parse? (String.ofList keyword) = some operator) (hop : operator ≠ .pr)
      (hvalue : IsLiteral value) :
      IsSentence inBrackets (attr.toList ++ ' ' :: (keyword ++ ' ' :: value))
  | brackets {attr : String} {inner : List Char} (hattr : isAttributePath attr = true)
      (h : IsSentence true inner) : IsSentence false (attr.toList ++ '[' :: (inner ++ [']']))
  | group {inBrackets : Bool} {inner : List Char} (h : IsSentence inBrackets inner) :
      IsSentence inBrackets ('(' :: (inner ++ [')']))
  | negation {inBrackets : Bool} {word gap inner : List Char}
      (hword : sameIgnoringCase word ['n', 'o', 't'] = true) (hgap : gap = [] ∨ gap = [' '])
      (h : IsSentence inBrackets inner) :
      IsSentence inBrackets (word ++ gap ++ '(' :: (inner ++ [')']))
  | join {inBrackets : Bool} {c : Connector} {word left right : List Char}
      (hword : Connector.parse? (String.ofList word) = some c) (hleft : IsSentence inBrackets left)
      (hright : IsSentence inBrackets right) :
      IsSentence inBrackets (left ++ ' ' :: (word ++ ' ' :: right))

/-! ## Values -/

lemma isQuoted_flatMap_literalChar {s : List Char} (h : ∀ c ∈ s, c ≠ '\\' ∧ 0x20 ≤ c.toNat) :
    IsQuoted (s.flatMap literalChar) := by
  induction s with
  | nil => exact .nil
  | cons c s ih =>
      have hs := ih fun d hd => h d (List.mem_cons_of_mem _ hd)
      obtain ⟨hb, hc⟩ := h c List.mem_cons_self
      rw [List.flatMap_cons, literalChar]
      split
      · exact .escape (e := '"') rfl hs
      · next hq => exact .bare hc hq hb hs

lemma isLiteral_stringLiteral {s : List Char} (h : ∀ c ∈ s, c ≠ '\\' ∧ 0x20 ≤ c.toNat) :
    IsLiteral (stringLiteral s) :=
  .string (isQuoted_flatMap_literalChar h)

/-- **A value that a strict reader takes is written as a literal.** -/
lemma isLiteral_literal {v : FilterValue} (h : v.isReadable false = true) :
    IsLiteral v.literal.toList := by
  cases v with
  | bool b =>
      cases b with
      | true => exact .true
      | false => exact .false
  | integer n =>
      obtain ⟨t, ht, htext⟩ := exists_isPlain_integerText n
      rw [FilterValue.literal, String.toList_ofList, ← htext]
      exact .number ht.isJson
  | float x =>
      rw [FilterValue.literal, String.toList_ofList, doubleLiteral]
      cases hx : x.number with
      | finite negative m e =>
          obtain ⟨t, ht, htext⟩ := exists_isPlain_plain hx
          simp only
          rw [← htext]
          exact .number ht.isJson
      | nan => exact isLiteral_stringLiteral (by simp)
      | infinite negative =>
          cases negative with
          | false => exact isLiteral_stringLiteral (by simp)
          | true => exact isLiteral_stringLiteral (by simp)
  | string s =>
      rw [FilterValue.literal, String.toList_ofList]
      exact isLiteral_stringLiteral (by simpa [FilterValue.isReadable] using h)
  | raw => simp [FilterValue.isReadable] at h

/-! ## Clauses -/

section Clauses

variable {inBrackets : Bool}

lemma isSentence_wrapExpression {text : String} (negate wrap : Bool)
    (h : IsSentence inBrackets text.toList) :
    IsSentence inBrackets (wrapExpression text negate wrap).toList := by
  cases negate with
  | true =>
      have htext : (wrapExpression text true wrap).toList
          = ['n', 'o', 't'] ++ [' '] ++ '(' :: (text.toList ++ [')']) := by
        simp [wrapExpression]
      rw [htext]
      exact .negation (by decide) (.inr rfl) h
  | false =>
      cases wrap with
      | true =>
          have htext : (wrapExpression text false true).toList = '(' :: (text.toList ++ [')']) := by
            simp [wrapExpression]
          rw [htext]
          exact .group h
      | false => exact h

lemma isSentence_presenceClause {attr : String} (negate : Bool) (hattr : isAttributePath attr = true) :
    IsSentence inBrackets (presenceClause attr negate).toList := by
  refine isSentence_wrapExpression negate false ?_
  rw [String.toList_append]
  exact .present hattr (show Operator.parse? (String.ofList ['p', 'r']) = some .pr by decide)

lemma isSentence_comparisonClause {attr : String} {operator : Operator} {v : FilterValue}
    (negate : Bool) (hattr : isAttributePath attr = true) (hop : operator ≠ .pr)
    (hv : v.isReadable false = true) :
    IsSentence inBrackets (comparisonClause attr operator v negate).toList := by
  refine isSentence_wrapExpression negate false ?_
  have htext : (attr ++ " " ++ operator.keyword ++ " " ++ v.literal).toList
      = attr.toList ++ ' ' :: (operator.keyword.toList ++ ' ' :: v.literal.toList) := by
    simp
  have hkeyword : Operator.parse? (String.ofList operator.keyword.toList) = some operator := by
    cases operator <;> decide
  rw [htext]
  exact .test hattr hkeyword hop (isLiteral_literal hv)

/-- Clauses that are sentences are joined to one. -/
lemma isSentence_append_connectedText {text : List Char} {clauses : List (Connector × String)}
    (h : IsSentence inBrackets text)
    (hclauses : ∀ clause ∈ clauses, IsSentence inBrackets clause.2.toList) :
    IsSentence inBrackets (text ++ connectedText clauses) := by
  induction clauses generalizing text with
  | nil => rwa [connectedText_nil, List.append_nil]
  | cons clause clauses ih =>
      obtain ⟨c, t⟩ := clause
      have hjoin : IsSentence inBrackets (text ++ ' ' :: (c.keyword.toList ++ ' ' :: t.toList)) :=
        .join (c := c) (by cases c <;> decide) h (hclauses _ List.mem_cons_self)
      have htext : text ++ connectedText ((c, t) :: clauses)
          = text ++ ' ' :: (c.keyword.toList ++ ' ' :: t.toList) ++ connectedText clauses := by
        simp
      rw [htext]
      exact ih hjoin fun clause hc => hclauses clause (List.mem_cons_of_mem _ hc)

lemma isSentence_joinClauses {clauses : List (Connector × String)} (hne : clauses ≠ [])
    (hclauses : ∀ clause ∈ clauses, IsSentence inBrackets clause.2.toList) :
    IsSentence inBrackets (joinClauses clauses).toList := by
  cases clauses with
  | nil => exact absurd rfl hne
  | cons clause clauses =>
      rw [joinClauses_cons]
      exact isSentence_append_connectedText (hclauses clause List.mem_cons_self)
        fun other hother => hclauses other (List.mem_cons_of_mem _ hother)

lemma isSentence_membershipText {attr : String} {values : List FilterValue} (negate : Bool)
    (hattr : isAttributePath attr = true) (hvalues : values.all (·.isReadable false) = true) :
    IsSentence inBrackets (membershipText attr values negate).toList := by
  by_cases hempty : values.isEmpty = true
  · have htext : (membershipText attr values negate).toList = (presenceClause attr false).toList
        ++ ' ' :: (Connector.both.keyword.toList ++ ' ' :: (presenceClause attr true).toList) := by
      simp [membershipText, hempty, presenceClause, wrapExpression, Connector.keyword]
    rw [htext]
    exact .join (c := .both) (by decide) (isSentence_presenceClause false hattr)
      (isSentence_presenceClause true hattr)
  · rw [membershipText, if_neg hempty]
    refine isSentence_joinClauses (by simpa using hempty) fun clause hclause => ?_
    obtain ⟨v, hv, rfl⟩ := List.mem_map.mp hclause
    exact isSentence_comparisonClause false hattr (by decide) (List.all_eq_true.mp hvalues v hv)

end Clauses

/-! ## Filters -/

section Filters

variable {inBrackets : Bool} {d : Dialect}

lemma isSentence_finishFilter {conditions : List Condition} (hne : conditions ≠ [])
    (h : Condition.areReadable false conditions = true)
    (hclauses : ∀ clause ∈ d.clauses conditions, IsSentence inBrackets clause.2.toList) :
    IsSentence inBrackets (finishFilter conditions (d.clauses conditions)).toList := by
  by_cases hlone : isLoneMembership conditions = true
  · obtain ⟨attr, values, c, rfl⟩ := eq_of_isLoneMembership hlone
    simp only [Condition.areReadable, Condition.isReadable, Bool.and_eq_true] at h
    rw [finishFilter_membership]
    exact isSentence_membershipText false h.1.1 h.1.2
  · rw [finishFilter_of_not_lone hne hlone]
    refine isSentence_joinClauses ?_ hclauses
    cases conditions with
    | nil => exact absurd rfl hne
    | cons c conditions => simp [Dialect.clauses]

mutual

/-- **The clause of a readable condition is a sentence.** -/
theorem isSentence_clause (hd : d.presence = presenceClause) :
    ∀ {condition : Condition}, condition.isReadable false = true →
      IsSentence inBrackets (d.clause condition).toList
  | .comparison attr operator v _ negate, h => by
      simp only [Condition.isReadable, Bool.and_eq_true, decide_eq_true_eq] at h
      exact isSentence_comparisonClause negate h.1.1 h.1.2 h.2
  | .presence attr _ negate, h => by
      rw [Dialect.clause, hd]
      exact isSentence_presenceClause negate h
  | .membership attr values _ negate, h => by
      simp only [Condition.isReadable, Bool.and_eq_true] at h
      rw [Dialect.clause, membershipClause_eq]
      exact isSentence_wrapExpression negate true (isSentence_membershipText negate h.1 h.2)
  | .raw _ _, h => by simp [Condition.isReadable] at h
  | .group conditions _ negate, h => by
      simp only [Condition.isReadable, Bool.and_eq_true] at h
      exact isSentence_wrapExpression negate true
        (isSentence_finishFilter (by simpa using h.1) h.2 (isSentence_clauses hd h.2))

theorem isSentence_clauses (hd : d.presence = presenceClause) :
    ∀ {conditions : List Condition}, Condition.areReadable false conditions = true →
      ∀ clause ∈ d.clauses conditions, IsSentence inBrackets clause.2.toList
  | [], _ => by simp [Dialect.clauses]
  | condition :: conditions, h => by
      rw [Condition.areReadable, Bool.and_eq_true] at h
      have hfirst : IsSentence inBrackets (d.clause condition).toList := isSentence_clause hd h.1
      have hothers := isSentence_clauses hd h.2
      intro clause hclause
      rcases List.mem_cons.mp hclause with rfl | hclause
      · exact hfirst
      · exact hothers clause hclause

end

/-- **The filter of readable conditions is a sentence.** -/
theorem isSentence_filter (hd : d.presence = presenceClause) {conditions : List Condition}
    (hne : conditions ≠ []) (h : Condition.areReadable false conditions = true) :
    IsSentence inBrackets (d.filter conditions).toList :=
  isSentence_finishFilter hne h (isSentence_clauses hd h)

end Filters

end DirectorySearch
