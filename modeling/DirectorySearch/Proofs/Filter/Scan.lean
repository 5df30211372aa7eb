import DirectorySearch.Proofs.Filter.Grammar
import Mathlib.Data.List.Basic

/-!
# Where a text stops being a sentence

That a text is no sentence is a statement about every way to derive it.  It is proved by a scan from
left to right that knows so little of the grammar that it is a fold: it forgets how deep it is in
parentheses, and what it keeps is the place in a clause.

* `Place`, `Place.next?` — the place and what the next character makes of it.
* `scan?` — the fold.  It fails where a value stands behind `pr`, for there only a connector may
  follow.
* **`IsSentence.scan?`** — it does not fail on a sentence and stops where a clause may end.  This is
  the only induction on derivations.
* `scan?_comparisonClause` — it fails on `attribute pr value`.
* **`scan?_filter`** — so it does on a filter that holds such a test at any depth, by recursion over
  the tree.  The clauses in front of the test are sentences, so the scan gets as far as the test.
-/

namespace DirectorySearch

/-! ## The scan -/

/-- A place in a sentence. -/
inductive Place where
  /-- In front of a clause. -/
  | clause
  | attribute
  | operator
  /-- Behind the first letter of an operator. -/
  | keyword (first : Char)
  /-- Behind an operator that takes a value. -/
  | gap
  | value
  /-- In a value without quotes. -/
  | bare
  | quoted
  | escaped
  /-- Behind a clause. -/
  | behind
  | connector
  | word
deriving DecidableEq, Repr

/-- The place behind a character. -/
def Place.next? : Place → Char → Option Place
  | .clause, c => if c = '(' then some .clause else if isPathChar c then some .attribute else none
  | .attribute, c =>
    if isPathChar c then some .attribute
    else if c = ' ' then some .operator
    else if c = '(' || c = '[' then some .clause
    else none
  | .operator, c => if c = '(' then some .clause else some (.keyword c)
  | .keyword first, c =>
    match Operator.parse? (String.ofList [first, c]) with
    | some .pr => some .behind
    | some _ => some .gap
    | none => none
  | .gap, c => if c = ' ' then some .value else none
  | .value, c => if c = '"' then some .quoted else some .bare
  | .bare, c =>
    if c = ' ' then some .connector else if c = ')' || c = ']' then some .behind else some .bare
  | .quoted, c =>
    if c = '"' then some .behind else if c = '\\' then some .escaped else some .quoted
  | .escaped, _ => some .quoted
  | .behind, c =>
    if c = ' ' then some .connector else if c = ')' || c = ']' then some .behind else none
  | .connector, c => if c.toLower = 'a' || c.toLower = 'o' then some .word else none
  | .word, c => if c = ' ' then some .clause else some .word

/-- **The place behind a text**, if the text can stand at a place. -/
def scan? (p : Place) (text : List Char) : Option Place := text.foldlM Place.next? p

@[simp] lemma scan?_nil (p : Place) : scan? p [] = some p := rfl

@[simp] lemma scan?_cons (p : Place) (c : Char) (text : List Char) :
    scan? p (c :: text) = (p.next? c).bind (scan? · text) := rfl

@[simp] lemma scan?_append (p : Place) (text more : List Char) :
    scan? p (text ++ more) = (scan? p text).bind (scan? · more) :=
  List.foldlM_append

namespace Place

@[simp] lemma next?_clause_open : clause.next? '(' = some .clause := rfl

@[simp] lemma next?_attribute_space : attribute.next? ' ' = some .operator := rfl

@[simp] lemma next?_attribute_open : attribute.next? '(' = some .clause := rfl

@[simp] lemma next?_attribute_bracket : attribute.next? '[' = some .clause := rfl

@[simp] lemma next?_operator_open : operator.next? '(' = some .clause := rfl

@[simp] lemma next?_gap_space : gap.next? ' ' = some .value := rfl

end Place

/-- Places where a clause may end. -/
inductive Place.IsEnd : Place → Prop
  | bare : IsEnd .bare
  | behind : IsEnd .behind

lemma Place.IsEnd.next?_space {p : Place} (h : p.IsEnd) : p.next? ' ' = some .connector := by
  cases h <;> rfl

lemma Place.IsEnd.next?_closing {p : Place} (h : p.IsEnd) {c : Char} (hc : c = ')' ∨ c = ']') :
    p.next? c = some .behind := by
  rcases hc with rfl | rfl <;> cases h <;> rfl

/-! ## Words -/

lemma scan?_attribute_of_path {text : List Char} (h : ∀ c ∈ text, isPathChar c = true) :
    scan? .attribute text = some .attribute := by
  induction text with
  | nil => rfl
  | cons c text ih =>
      have hc := h c List.mem_cons_self
      simp [Place.next?, hc, ih fun d hd => h d (List.mem_cons_of_mem _ hd)]

/-- Characters of an attribute path lead into one. -/
lemma scan?_path {text : List Char} (hne : text ≠ []) (h : ∀ c ∈ text, isPathChar c = true) :
    scan? .clause text = some .attribute := by
  cases text with
  | nil => exact absurd rfl hne
  | cons c text =>
      have hc := h c List.mem_cons_self
      have hopen : c ≠ '(' := by
        rintro rfl
        exact absurd hc (by decide)
      simp [Place.next?, hc, hopen,
        scan?_attribute_of_path fun d hd => h d (List.mem_cons_of_mem _ hd)]

lemma scan?_attribute {attr : String} (h : isAttributePath attr = true) :
    scan? .clause attr.toList = some .attribute := by
  refine scan?_path (fun hnil => ?_) (isPathChar_of_mem h)
  rw [isAttributePath, hnil] at h
  exact absurd h (by decide)

lemma isPathChar_of_toLower {c : Char} (h : isPathChar c.toLower = true) : isPathChar c = true := by
  delta Char.toLower at h
  split at h
  · next hc =>
    have halphanum : c.isAlphanum = true := by
      delta Char.isAlphanum Char.isAlpha Char.isUpper
      rw [decide_eq_true hc]
      rfl
    simp [isPathChar, halphanum]
  · exact h

/-- The word `not` reads like an attribute. -/
lemma scan?_not {word : List Char} (h : sameIgnoringCase word ['n', 'o', 't'] = true) :
    scan? .clause word = some .attribute := by
  rw [sameIgnoringCase_iff] at h
  refine scan?_path ?_ fun c hc => isPathChar_of_toLower ?_
  · rintro rfl
    exact absurd h (by decide)
  · have hmem : c.toLower ∈ foldCase ['n', 'o', 't'] := h ▸ List.mem_map_of_mem hc
    exact List.all_eq_true.mp (show (foldCase ['n', 'o', 't']).all isPathChar = true by decide) _ hmem

lemma foldCase_of_parse? {keyword : List Char} {operator : Operator}
    (h : Operator.parse? (String.ofList keyword) = some operator) :
    foldCase keyword = operator.keyword.toList := by
  have hsame := List.find?_some h
  rw [sameIgnoringCase_iff, String.toList_ofList] at hsame
  rw [← hsame]
  cases operator <;> decide

/-- An operator is two characters, the first of which is no parenthesis. -/
lemma exists_of_parse? {keyword : List Char} {operator : Operator}
    (h : Operator.parse? (String.ofList keyword) = some operator) :
    ∃ a b, keyword = [a, b] ∧ a ≠ '(' := by
  have hfold := foldCase_of_parse? h
  have hlength : keyword.length = 2 := by
    rw [← List.length_map Char.toLower, ← foldCase, hfold]
    cases operator <;> rfl
  obtain ⟨a, b, rfl⟩ := List.length_eq_two.mp hlength
  refine ⟨a, b, rfl, ?_⟩
  rintro rfl
  have hhead : some '(' = operator.keyword.toList.head? := congrArg List.head? hfold
  cases operator <;> exact absurd hhead (by decide)

lemma scan?_operator {keyword : List Char} {operator : Operator}
    (h : Operator.parse? (String.ofList keyword) = some operator) :
    scan? .operator keyword = if operator = .pr then some .behind else some .gap := by
  obtain ⟨a, b, rfl, ha⟩ := exists_of_parse? h
  rw [scan?_cons, Place.next?, if_neg ha, Option.bind_some, scan?_cons, Place.next?, h]
  cases operator <;> rfl

lemma scan?_word_of_ne_space {text : List Char} (h : ∀ c ∈ text, c ≠ ' ') :
    scan? .word text = some .word := by
  induction text with
  | nil => rfl
  | cons c text ih =>
      have hc := h c List.mem_cons_self
      simp [Place.next?, hc, ih fun d hd => h d (List.mem_cons_of_mem _ hd)]

/-- A connector leads to the next clause. -/
lemma scan?_connector {word : List Char} {c : Connector}
    (h : Connector.parse? (String.ofList word) = some c) :
    scan? .connector (word ++ [' ']) = some .clause := by
  have hfold : foldCase word = foldCase c.keyword.toList := by
    have hsame := List.find?_some h
    rw [sameIgnoringCase_iff, String.toList_ofList] at hsame
    exact hsame.symm
  have hspace : ∀ d ∈ word, d ≠ ' ' := by
    rintro d hd rfl
    have hmem : ' '.toLower ∈ foldCase c.keyword.toList := hfold ▸ List.mem_map_of_mem hd
    cases c <;> exact absurd hmem (by decide)
  cases word with
  | nil => cases c <;> exact absurd hfold (by decide)
  | cons a word =>
      have ha : a.toLower = 'a' ∨ a.toLower = 'o' := by
        have hhead := congrArg List.head? hfold
        cases c <;> simp_all [foldCase, Connector.keyword]
      have hword := scan?_word_of_ne_space fun d hd => hspace d (List.mem_cons_of_mem _ hd)
      simp [Place.next?, ha, hword]

/-! ## Literals -/

lemma IsQuoted.scan? {text : List Char} (h : IsQuoted text) :
    DirectorySearch.scan? .quoted text = some .quoted := by
  induction h with
  | nil => rfl
  | bare hc hq hb h ih => simp [Place.next?, hq, hb, ih]
  | escape hc h ih => simp [Place.next?, ih]
  | unit hu h ih =>
      have hbare := hexUnit?_bare hu
      simp only [List.mem_cons, List.not_mem_nil, or_false, forall_eq_or_imp, forall_eq] at hbare
      obtain ⟨ha, hb, hc, hd⟩ := hbare
      simp [Place.next?, ha, hb, hc, hd, ih]

/-- Whether a character neither ends a value without quotes nor starts one with quotes. -/
def isBare (c : Char) : Bool := c ≠ ' ' && c ≠ ')' && c ≠ ']' && c ≠ '"'

lemma isBare_of_isDigit {c : Char} (h : c.isDigit = true) : isBare c = true := by
  simp only [isBare, Bool.and_eq_true, decide_eq_true_eq]
  refine ⟨⟨⟨?_, ?_⟩, ?_⟩, ?_⟩ <;>
    · rintro rfl
      exact absurd h (by decide)

lemma ExponentText.IsJson.isBare {e : ExponentText} (h : e.IsJson) {c : Char}
    (hmem : c ∈ e.characters) : isBare c = true := by
  rcases List.mem_cons.mp hmem with rfl | hmem
  · rcases h.letter with hletter | hletter <;> rw [hletter] <;> rfl
  rcases List.mem_append.mp hmem with hsign | hdigits
  · rcases h.sign c (Option.mem_toList.mp hsign) with rfl | rfl <;> rfl
  · exact isBare_of_isDigit (h.digits c hdigits)

lemma NumberText.IsJson.isBare {t : NumberText} (h : t.IsJson) {c : Char}
    (hmem : c ∈ t.characters) : isBare c = true := by
  have hmem : c = '-' ∨ c ∈ t.whole ++ (if t.fraction = [] then [] else '.' :: t.fraction)
      ++ (t.exponent.map ExponentText.characters).getD [] := by
    rw [characters, signed] at hmem
    split at hmem
    · exact List.mem_cons.mp hmem
    · exact Or.inr hmem
  rw [List.mem_append, List.mem_append] at hmem
  rcases hmem with rfl | (hwhole | hfraction) | hexponent
  · rfl
  · exact isBare_of_isDigit (h.whole_digits c hwhole)
  · split at hfraction
    · exact absurd hfraction List.not_mem_nil
    · rcases List.mem_cons.mp hfraction with rfl | hdigit
      · rfl
      · exact isBare_of_isDigit (h.fraction_digits c hdigit)
  · cases he : t.exponent with
    | none =>
        rw [he] at hexponent
        exact absurd hexponent List.not_mem_nil
    | some e =>
        rw [he] at hexponent
        exact (h.exponent e he).isBare hexponent

lemma scan?_bare {text : List Char} (h : ∀ c ∈ text, isBare c = true) :
    scan? .bare text = some .bare := by
  induction text with
  | nil => rfl
  | cons c text ih =>
      have hc := h c List.mem_cons_self
      simp only [isBare, Bool.and_eq_true, decide_eq_true_eq] at hc
      simp [Place.next?, hc, ih fun d hd => h d (List.mem_cons_of_mem _ hd)]

/-- A literal leads to the end of a clause. -/
lemma IsLiteral.scan? {text : List Char} (h : IsLiteral text) :
    ∃ p, DirectorySearch.scan? .value text = some p ∧ p.IsEnd := by
  cases h with
  | null => exact ⟨.bare, rfl, .bare⟩
  | true => exact ⟨.bare, rfl, .bare⟩
  | false => exact ⟨.bare, rfl, .bare⟩
  | number h =>
      refine ⟨.bare, ?_, .bare⟩
      have hbare := fun c => h.isBare (c := c)
      obtain ⟨c, cs, hcs, -⟩ := NumberText.exists_characters_cons h.leading h.whole_digits
      rw [hcs] at hbare ⊢
      have hrest : DirectorySearch.scan? .bare cs = some .bare :=
        scan?_bare fun d hd => hbare d (List.mem_cons_of_mem _ hd)
      have hc := hbare c List.mem_cons_self
      simp only [DirectorySearch.isBare, Bool.and_eq_true, decide_eq_true_eq] at hc
      simp [Place.next?, hc, hrest]
  | string h => exact ⟨.behind, by simp [Place.next?, h.scan?], .behind⟩

/-- No literal starts like a connector. -/
lemma IsLiteral.scan?_connector {text : List Char} (h : IsLiteral text) (rest : List Char) :
    DirectorySearch.scan? .connector (text ++ rest) = none := by
  cases h with
  | null => rfl
  | true => rfl
  | false => rfl
  | number h =>
      obtain ⟨c, cs, hcs, ha, ho⟩ := h.exists_head
      rw [hcs]
      simp [Place.next?, ha, ho]
  | string h => rfl

/-! ## Sentences -/

/-- **A sentence leads from the start of a clause to its end.** -/
theorem IsSentence.scan? {inBrackets : Bool} {text : List Char} (h : IsSentence inBrackets text) :
    ∃ p, DirectorySearch.scan? .clause text = some p ∧ p.IsEnd := by
  induction h with
  | present hattr hkeyword =>
      refine ⟨.behind, ?_, .behind⟩
      simp [scan?_attribute hattr, scan?_operator hkeyword]
  | test hattr hkeyword hop hvalue =>
      obtain ⟨p, hp, hend⟩ := hvalue.scan?
      refine ⟨p, ?_, hend⟩
      simp [scan?_attribute hattr, scan?_operator hkeyword, hop, hp]
  | brackets hattr h ih =>
      obtain ⟨p, hp, hend⟩ := ih
      refine ⟨.behind, ?_, .behind⟩
      simp [scan?_attribute hattr, hp, hend.next?_closing]
  | group h ih =>
      obtain ⟨p, hp, hend⟩ := ih
      refine ⟨.behind, ?_, .behind⟩
      simp [hp, hend.next?_closing]
  | negation hword hgap h ih =>
      obtain ⟨p, hp, hend⟩ := ih
      refine ⟨.behind, ?_, .behind⟩
      rcases hgap with rfl | rfl <;> simp [scan?_not hword, hp, hend.next?_closing]
  | join hword hleft hright ihl ihr =>
      obtain ⟨p, hp, hend⟩ := ihl
      obtain ⟨q, hq, hend'⟩ := ihr
      refine ⟨q, ?_, hend'⟩
      rw [scan?_append, hp, Option.bind_some, scan?_cons, hend.next?_space, Option.bind_some,
        ← List.singleton_append, ← List.append_assoc, scan?_append, scan?_connector hword,
        Option.bind_some, hq]

/-! ## Presence with a value -/

mutual

/-- A condition that is written with attribute paths and strings that stand for themselves. -/
def Condition.isPlain : Condition → Bool
  | .comparison attr _ value _ _ => isAttributePath attr && value.isReadable false
  | .presence attr _ _ => isAttributePath attr
  | .membership attr values _ _ => isAttributePath attr && values.all (·.isReadable false)
  | .raw _ _ => false
  | .group conditions _ _ => !conditions.isEmpty && Condition.arePlain conditions

def Condition.arePlain : List Condition → Bool
  | [] => true
  | condition :: conditions => condition.isPlain && Condition.arePlain conditions

end

mutual

/-- Whether a condition tests presence with a value, at any depth. -/
def Condition.misusesPresence : Condition → Bool
  | .comparison _ operator _ _ _ => operator = .pr
  | .group conditions _ _ => Condition.anyMisusesPresence conditions
  | _ => false

def Condition.anyMisusesPresence : List Condition → Bool
  | [] => false
  | condition :: conditions =>
    condition.misusesPresence || Condition.anyMisusesPresence conditions

end

mutual

/-- A plain condition is readable unless it tests presence with a value. -/
lemma Condition.isReadable_of_isPlain :
    ∀ {condition : Condition}, condition.isPlain = true → condition.misusesPresence = false →
      condition.isReadable false = true
  | .comparison _ _ _ _ _, h, hp => by
      simp_all [isPlain, misusesPresence, isReadable]
  | .presence _ _ _, h, _ => h
  | .membership _ _ _ _, h, _ => h
  | .raw _ _, h, _ => by simp [isPlain] at h
  | .group _ _ _, h, hp => by
      rw [isPlain, Bool.and_eq_true] at h
      rw [isReadable, Bool.and_eq_true]
      exact ⟨h.1, areReadable_of_arePlain h.2 hp⟩

lemma Condition.areReadable_of_arePlain :
    ∀ {conditions : List Condition}, Condition.arePlain conditions = true →
      Condition.anyMisusesPresence conditions = false →
      Condition.areReadable false conditions = true
  | [], _, _ => rfl
  | condition :: conditions, h, hp => by
      rw [arePlain, Bool.and_eq_true] at h
      rw [anyMisusesPresence, Bool.or_eq_false_iff] at hp
      rw [areReadable, isReadable_of_isPlain h.1 hp.1, areReadable_of_arePlain h.2 hp.2]
      rfl

end

lemma scan?_wrapExpression {text : String} (negate wrap : Bool) (h : scan? .clause text.toList = none) :
    scan? .clause (wrapExpression text negate wrap).toList = none := by
  have hnot : scan? .clause ['n', 'o', 't'] = some .attribute := scan?_not (by decide)
  cases negate with
  | true =>
      have htext : (wrapExpression text true wrap).toList
          = ['n', 'o', 't'] ++ ' ' :: '(' :: (text.toList ++ [')']) := by
        simp [wrapExpression]
      rw [htext, scan?_append, hnot]
      simp [h]
  | false =>
      cases wrap with
      | true =>
          have htext : (wrapExpression text false true).toList = '(' :: (text.toList ++ [')']) := by
            simp [wrapExpression]
          rw [htext]
          simp [h]
      | false => exact h

/-- **The scan stops at a value behind `pr`.** -/
lemma scan?_comparisonClause {attr : String} {v : FilterValue} (negate : Bool)
    (hattr : isAttributePath attr = true) (hv : v.isReadable false = true) :
    scan? .clause (comparisonClause attr .pr v negate).toList = none := by
  refine scan?_wrapExpression negate false ?_
  have hpr : scan? .operator ['p', 'r'] = some .behind := rfl
  have hvalue := (isLiteral_literal hv).scan?_connector []
  have htext : (attr ++ " " ++ Operator.pr.keyword ++ " " ++ v.literal).toList
      = attr.toList ++ ' ' :: (['p', 'r'] ++ ' ' :: (v.literal.toList ++ [])) := by
    simp [Operator.keyword]
  rw [htext, scan?_append, scan?_attribute hattr, Option.bind_some, scan?_cons,
    Place.next?_attribute_space, Option.bind_some, scan?_append, hpr, Option.bind_some, scan?_cons,
    Place.IsEnd.behind.next?_space, Option.bind_some, hvalue]

/-- Behind a clause, the clauses that follow are read as a filter of their own. -/
lemma scan?_connectedText {p : Place} (hp : p.IsEnd) (c : Connector) (t : String)
    (clauses : List (Connector × String)) :
    scan? p (connectedText ((c, t) :: clauses))
      = scan? .clause (joinClauses ((c, t) :: clauses)).toList := by
  have hkeyword : Connector.parse? (String.ofList c.keyword.toList) = some c := by
    cases c <;> decide
  rw [connectedText_cons, scan?_cons, hp.next?_space, Option.bind_some, ← List.singleton_append,
    ← List.append_assoc, scan?_append, scan?_connector hkeyword, Option.bind_some,
    joinClauses_cons]

section Filters

variable {d : Dialect}

lemma Condition.not_isLoneMembership {conditions : List Condition}
    (h : Condition.anyMisusesPresence conditions = true) :
    ¬ isLoneMembership conditions = true := by
  intro hlone
  obtain ⟨attr, values, c, rfl⟩ := eq_of_isLoneMembership hlone
  simp [anyMisusesPresence, misusesPresence] at h

lemma scan?_finishFilter {conditions : List Condition}
    (hp : Condition.anyMisusesPresence conditions = true)
    (h : scan? .clause (joinClauses (d.clauses conditions)).toList = none) :
    scan? .clause (finishFilter conditions (d.clauses conditions)).toList = none := by
  have hne : conditions ≠ [] := by
    rintro rfl
    simp [Condition.anyMisusesPresence] at hp
  rwa [finishFilter_of_not_lone hne (Condition.not_isLoneMembership hp)]

mutual

theorem scan?_clause (hd : d.presence = presenceClause) :
    ∀ {condition : Condition}, condition.isPlain = true → condition.misusesPresence = true →
      scan? .clause (d.clause condition).toList = none
  | .comparison attr operator v _ negate, h, hp => by
      obtain rfl : operator = .pr := by simpa [Condition.misusesPresence] using hp
      rw [Condition.isPlain, Bool.and_eq_true] at h
      exact scan?_comparisonClause negate h.1 h.2
  | .group conditions _ negate, h, hp => by
      rw [Condition.isPlain, Bool.and_eq_true] at h
      exact scan?_wrapExpression negate true (scan?_finishFilter hp (scan?_joinClauses hd h.2 hp))
  | .presence _ _ _, _, hp => by simp [Condition.misusesPresence] at hp
  | .membership _ _ _ _, _, hp => by simp [Condition.misusesPresence] at hp
  | .raw _ _, _, hp => by simp [Condition.misusesPresence] at hp

theorem scan?_joinClauses (hd : d.presence = presenceClause) :
    ∀ {conditions : List Condition}, Condition.arePlain conditions = true →
      Condition.anyMisusesPresence conditions = true →
      scan? .clause (joinClauses (d.clauses conditions)).toList = none
  | [], _, hp => by simp [Condition.anyMisusesPresence] at hp
  | condition :: conditions, h, hp => by
      rw [Condition.arePlain, Bool.and_eq_true] at h
      rw [Condition.anyMisusesPresence, Bool.or_eq_true] at hp
      rw [Dialect.clauses, joinClauses_cons, scan?_append]
      cases hfirst : condition.misusesPresence with
      | true => rw [scan?_clause hd h.1 hfirst, Option.bind_none]
      | false =>
          -- the first clause is a sentence, so the scan reaches the others
          have hread := Condition.isReadable_of_isPlain h.1 hfirst
          have hsentence : IsSentence false (d.clause condition).toList := isSentence_clause hd hread
          obtain ⟨p, hscan, hend⟩ := hsentence.scan?
          have hothers := scan?_joinClauses hd h.2 (hp.resolve_left (by simp [hfirst]))
          rw [hscan, Option.bind_some]
          cases conditions with
          | nil => simp [Condition.anyMisusesPresence, hfirst] at hp
          | cons other conditions =>
              rw [Dialect.clauses] at hothers ⊢
              rw [scan?_connectedText hend, hothers]

end

/-- **The scan stops in a filter that tests presence with a value.** -/
theorem scan?_filter (hd : d.presence = presenceClause) {conditions : List Condition}
    (h : Condition.arePlain conditions = true)
    (hp : Condition.anyMisusesPresence conditions = true) :
    scan? .clause (d.filter conditions).toList = none :=
  scan?_finishFilter hp (scan?_joinClauses hd h hp)

end Filters

end DirectorySearch
