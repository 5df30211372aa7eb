import DirectorySearch.Proofs.Filter.Clauses
import DirectorySearch.Proofs.Filter.Reader
import Mathlib.Data.List.TakeWhile

/-!
# Filters are read as what they denote

A filter is text, glued together and cut at its ends on every level of nesting.  This file shows that
nothing is lost on the way: a reader of the grammar gets the expression that the conditions denote.

* `readFactor?_wrap`, `readFactor?_test` — clauses are read as factors: negated, grouped, or bare.
* **`readJoined?_joinClauses`** — a filter is read as the expressions of its clauses, joined with the
  precedence of the grammar, if each of its clauses is read as its expression.
* `readFactor?_clause` — each clause is read as its expression, by recursion over the tree.
* **`readExpression?_filter`** — the filter of a list of conditions is read as the expression of the
  list.

The reader follows parentheses only so deep as it is told.  The length of a text is always deep enough,
which is why the recursion carries a bound on the length of a clause: a clause in a group is shorter
than the group by its parentheses.
-/

namespace DirectorySearch

/-! ## Factors -/

/-- A text is read as a filter, whatever follows it. -/
def ReadsFilter (inner : TextReader FilterExpr) (text : List Char) (e : FilterExpr) : Prop :=
  ∀ rest, EndsFilter rest → inner (text ++ rest) = some (e, rest)

lemma readClosed?_append {inner : TextReader FilterExpr} {text : List Char} {e : FilterExpr}
    (h : ReadsFilter inner text e) (rest : List Char) :
    readClosed? inner (text ++ ')' :: rest) = some (e, rest) := by
  simp [readClosed?, h _ (endsFilter_closed rest), cutWord?_singleton]

/-- A negated or grouped filter is read as that, and a bare one as the factor it is. -/
lemma readFactor?_wrap {lax : Bool} {inner : TextReader FilterExpr} {text : String}
    {e : FilterExpr} {negate wrap : Bool}
    (hinner : (negate || wrap) = true → ReadsFilter inner text.toList e)
    (hbare : (negate || wrap) = false → ReadAs (readFactor? lax inner) text.toList e) :
    ReadAs (readFactor? lax inner) (wrapExpression text negate wrap).toList
      (e.wrap negate wrap) := by
  cases negate with
  | true =>
      intro rest hrest
      have htext : (wrapExpression text true wrap).toList ++ rest
          = ['n', 'o', 't', ' ', '('] ++ (text.toList ++ ')' :: rest) := by
        simp [wrapExpression]
      rw [htext, readFactor?, cutWord?_append]
      simp [readClosed?_append (hinner rfl) rest, FilterExpr.wrap]
  | false =>
      cases wrap with
      | false => exact hbare rfl
      | true =>
          intro rest hrest
          have htext : (wrapExpression text false true).toList ++ rest
              = ['('] ++ (text.toList ++ ')' :: rest) := by
            simp [wrapExpression]
          rw [htext, readFactor?, cutWord?_append, List.singleton_append,
            cutWord?_eq_none (by simp)]
          simp [readClosed?_append (hinner rfl) rest, FilterExpr.wrap]

/-- What starts like a test is read as one, whatever its attribute is called. -/
lemma readFactor?_eq_readTest? (lax : Bool) (inner : TextReader FilterExpr) {attr : String}
    {text : List Char} {c : Char} {tail : List Char} (hattr : isAttributePath attr = true)
    (htext : text = attr.toList ++ ' ' :: c :: tail) (hc : c ≠ '(') (rest : List Char) :
    readFactor? lax inner (text ++ rest) = readTest? lax (text ++ rest) := by
  have hnot : cutWord? ['n', 'o', 't', ' ', '('] (text ++ rest) = none := by
    rw [htext, List.append_assoc]
    exact cutWord?_not_path (isPathChar_of_mem hattr) (by simpa using hc)
  have hopen : cutWord? ['('] (text ++ rest) = none := by
    refine cutWord?_eq_none fun d hd h => ?_
    have hpath : isPathChar d = true ∨ d = ' ' := by
      rw [htext] at hd
      cases hchars : attr.toList with
      | nil =>
          rw [hchars] at hd
          exact Or.inr (by simpa using hd.symm)
      | cons a as =>
          rw [hchars] at hd
          refine Or.inl (isPathChar_of_mem hattr d ?_)
          rw [hchars]
          simp_all
    rw [eq_of_toLower_eq (by decide) h] at hpath
    exact absurd hpath (by decide)
  rw [readFactor?, hnot, hopen]

/-- A test is a factor. -/
lemma readFactor?_test {lax : Bool} (inner : TextReader FilterExpr) {attr : String}
    {text : List Char} {c : Char} {tail : List Char} {e : FilterExpr}
    (hattr : isAttributePath attr = true) (htext : text = attr.toList ++ ' ' :: c :: tail)
    (hc : c ≠ '(') (h : ReadAs (readTest? lax) text e) : ReadAs (readFactor? lax inner) text e := by
  intro rest hrest
  rw [readFactor?_eq_readTest? lax inner hattr htext hc]
  exact h rest hrest

/-! ## Chains -/

/-- A clause as it is written and as it is read. -/
structure ReadClause where
  connector : Connector
  text : String
  /-- The expression its text is read as. -/
  expr : FilterExpr

namespace ReadClause

def written (c : ReadClause) : Connector × String := (c.connector, c.text)

def read (c : ReadClause) : Connector × FilterExpr := (c.connector, c.expr)

/-- No clause is longer than the filter. -/
lemma length_le {clauses : List ReadClause} {c : ReadClause} (h : c ∈ clauses) :
    c.text.toList.length ≤ (joinClauses (clauses.map written)).toList.length :=
  length_le_joinClauses (c := c.connector) (List.mem_map_of_mem (f := written) h)

end ReadClause

section Chains

variable {item : TextReader FilterExpr} {rest : List Char}

/-- A run of clauses joined by `and` is read up to the first that is joined by `or`. -/
lemma readChain?_both (hrest : EndsFilter rest) :
    ∀ (clauses : List ReadClause) (t : List Char) (e : FilterExpr) (bound : Nat),
      ReadAs item t e → (∀ c ∈ clauses, ReadAs item c.text.toList c.expr) →
      clauses.length < bound →
      readChain? .both .both item bound
          (t ++ (connectedText (clauses.map ReadClause.written) ++ rest))
        = some (.chain .both
              (e :: ((clauses.takeWhile (·.connector = .both)).map ReadClause.expr)),
            connectedText ((clauses.dropWhile (·.connector = .both)).map ReadClause.written)
              ++ rest)
  | [], t, e, bound + 1, ht, _, _ => by
      simp [readChain?, ht rest hrest.endsWord, cutConnective?_end .both hrest]
  | ⟨.either, t', e'⟩ :: clauses, t, e, bound + 1, ht, _, _ => by
      simp [readChain?, ht _ (endsWord_space _), ReadClause.written,
        cutConnective?_other (c := .both) (d := .either) (by decide)]
  | ⟨.both, t', e'⟩ :: clauses, t, e, bound + 1, ht, hclauses, hbound => by
      have ih := readChain?_both hrest clauses t'.toList e' bound
        (hclauses _ List.mem_cons_self) (fun c hc => hclauses c (List.mem_cons_of_mem _ hc))
        (by simpa using hbound)
      simp [readChain?, ht _ (endsWord_space _), ReadClause.written, cutConnective?_append, ih]

lemma runs_map_read (c : ReadClause) (clauses : List ReadClause) :
    runs ((c :: clauses).map ReadClause.read)
      = (c.expr :: (clauses.takeWhile (·.connector = .both)).map ReadClause.expr)
          :: runs ((clauses.dropWhile (·.connector = .both)).map ReadClause.read) := by
  rw [List.map_cons, ReadClause.read, runs, List.takeWhile_map, List.dropWhile_map, List.map_map]
  rfl

/-- Runs are read one after the other: what is left behind a run is shorter and starts with a clause
joined by `or`. -/
lemma readChain?_either (hrest : EndsFilter rest) (c : ReadClause) (clauses : List ReadClause)
    (bound : Nat) (hclauses : ∀ d ∈ c :: clauses, ReadAs item d.text.toList d.expr)
    (hbound : clauses.length < bound) :
    readChain? .either .either
        (fun text => readChain? .both .both item (text.length + 1) text) bound
        (c.text.toList ++ (connectedText (clauses.map ReadClause.written) ++ rest))
      = some (joinExpressions ((c :: clauses).map ReadClause.read), rest) := by
  induction hn : clauses.length using Nat.strong_induction_on generalizing c clauses bound with
  | h n ih =>
      obtain ⟨bound, rfl⟩ : ∃ b, bound = b + 1 := ⟨bound - 1, by omega⟩
      have hlength := length_le_connectedText (clauses.map ReadClause.written)
      have hrun := readChain?_both hrest clauses c.text.toList c.expr
        ((c.text.toList ++ (connectedText (clauses.map ReadClause.written) ++ rest)).length + 1)
        (hclauses c List.mem_cons_self) (fun d hd => hclauses d (List.mem_cons_of_mem _ hd))
        (by simp only [List.length_append, List.length_map] at hlength ⊢; omega)
      have hsub := List.dropWhile_sublist (fun d : ReadClause => decide (d.connector = .both))
        (l := clauses)
      have hhead := List.head?_dropWhile_not (fun d : ReadClause => decide (d.connector = .both))
        clauses
      rw [joinExpressions, runs_map_read, readChain?, hrun]
      generalize clauses.dropWhile (·.connector = .both) = behind at hsub hhead ⊢
      cases behind with
      | nil => simp [cutConnective?_end .either hrest, runs]
      | cons d behind =>
          have hshort : behind.length < clauses.length := hsub.length_le
          have hd : d.connector = .either := by
            cases hc : d.connector with
            | both => simp [hc] at hhead
            | either => rfl
          have hread := ih behind.length (by omega) d behind bound
            (fun x hx => hclauses x (List.mem_cons_of_mem _ (hsub.subset hx))) (by omega) rfl
          rw [joinExpressions, runs_map_read] at hread
          rw [runs_map_read]
          simp [ReadClause.written, hd, cutConnective?_append, hread]

/-- **A filter is read as the expressions of its clauses, joined**, if each of its clauses is read as
its expression. -/
lemma readJoined?_joinClauses (hrest : EndsFilter rest) (clauses : List ReadClause)
    (hne : clauses ≠ []) (hclauses : ∀ c ∈ clauses, ReadAs item c.text.toList c.expr) :
    readJoined? item ((joinClauses (clauses.map ReadClause.written)).toList ++ rest)
      = some (joinExpressions (clauses.map ReadClause.read), rest) := by
  cases clauses with
  | nil => exact absurd rfl hne
  | cons c clauses =>
      have hlength := length_le_connectedText (clauses.map ReadClause.written)
      have hjoin : (joinClauses ((c :: clauses).map ReadClause.written)).toList
          = c.text.toList ++ connectedText (clauses.map ReadClause.written) :=
        joinClauses_cons c.connector c.text _
      rw [hjoin, List.append_assoc, readJoined?]
      refine readChain?_either hrest c clauses _ hclauses ?_
      simp only [List.length_append, List.length_map] at hlength ⊢
      omega

end Chains

/-- A factor that stands alone is a filter. -/
lemma readsFilter_factor {lax : Bool} {depth : Nat} {text : String} {e : FilterExpr}
    (h : ReadAs (readFactor? lax (readFilter? lax depth)) text.toList e) :
    ReadsFilter (readFilter? lax (depth + 1)) text.toList e := by
  intro rest hrest
  have hread := readJoined?_joinClauses hrest [⟨.either, text, e⟩] (by simp) (by simpa using h)
  have htext : (joinClauses [(.either, text)]).toList = text.toList := by
    simp [joinClauses_cons]
  have hexpr : joinExpressions [(.either, e)] = e := by
    simp [joinExpressions, runs]
  simp only [List.map_cons, List.map_nil, ReadClause.written, ReadClause.read, htext, hexpr]
    at hread
  exact hread

/-! ## Tests, negated or not -/

lemma length_lt_wrapExpression (text : String) (negate wrap : Bool)
    (h : (negate || wrap) = true) :
    text.toList.length < (wrapExpression text negate wrap).toList.length := by
  cases negate <;> cases wrap <;> simp_all [wrapExpression] <;> omega

/-- The clause of a test is read as the test, whether negated or not. -/
lemma readFactor?_testClause {lax : Bool} {depth : Nat} {attr : String} {text : String} {c : Char}
    {tail : List Char} {e : FilterExpr} {negate : Bool} (hattr : isAttributePath attr = true)
    (htext : text.toList = attr.toList ++ ' ' :: c :: tail) (hc : c ≠ '(')
    (h : ReadAs (readTest? lax) text.toList e)
    (hdepth : (wrapExpression text negate false).toList.length ≤ depth) :
    ReadAs (readFactor? lax (readFilter? lax depth)) (wrapExpression text negate false).toList
      (e.wrap negate false) := by
  refine readFactor?_wrap (fun hwrap => ?_) fun _ => readFactor?_test _ hattr htext hc h
  obtain ⟨depth, rfl⟩ : ∃ d, depth = d + 1 := by
    have := length_lt_wrapExpression text negate false hwrap
    exact ⟨depth - 1, by omega⟩
  exact readsFilter_factor (readFactor?_test _ hattr htext hc h)

lemma keyword_cons (operator : Operator) :
    ∃ c cs, operator.keyword.toList = c :: cs ∧ c ≠ '(' := by
  cases operator <;> exact ⟨_, _, rfl, by decide⟩

lemma readFactor?_comparisonClause {lax : Bool} {depth : Nat} {attr : String} {operator : Operator}
    {v : FilterValue} (negate : Bool) (hattr : isAttributePath attr = true) (hop : operator ≠ .pr)
    (hv : v.isReadable lax = true)
    (hdepth : (comparisonClause attr operator v negate).toList.length ≤ depth) :
    ReadAs (readFactor? lax (readFilter? lax depth))
      (comparisonClause attr operator v negate).toList
      ((FilterExpr.test attr operator v.denoted).wrap negate false) := by
  obtain ⟨c, cs, hkeyword, hc⟩ := keyword_cons operator
  have htext : (attr ++ " " ++ operator.keyword ++ " " ++ v.literal).toList
      = attr.toList ++ ' ' :: c :: (cs ++ ' ' :: v.literal.toList) := by
    simp [hkeyword]
  exact readFactor?_testClause hattr htext hc (readTest?_comparison hattr hop hv) hdepth

lemma readFactor?_presenceClause {lax : Bool} {depth : Nat} {attr : String} (negate : Bool)
    (hattr : isAttributePath attr = true)
    (hdepth : (presenceClause attr negate).toList.length ≤ depth) :
    ReadAs (readFactor? lax (readFilter? lax depth)) (presenceClause attr negate).toList
      ((FilterExpr.present attr).wrap negate false) := by
  have htext : (attr ++ " pr").toList = attr.toList ++ ' ' :: 'p' :: ['r'] := by
    simp
  exact readFactor?_testClause hattr htext (by decide) (readTest?_presence lax hattr) hdepth

/-! ## Membership tests -/

lemma joinExpressions_either {α : Type} (f : α → FilterExpr) (values : List α) :
    joinExpressions (values.map fun v => (.either, f v)) = .chain .either (values.map f) := by
  have hruns : runs (values.map fun v => (Connector.either, f v)) = values.map fun v => [f v] := by
    induction values with
    | nil => simp [runs]
    | cons v values ih =>
        rw [List.map_cons, runs]
        cases values <;> simp_all
  simp [joinExpressions, hruns, Function.comp_def]

lemma joinExpressions_both {α : Type} (f : α → FilterExpr) {values : List α} (hne : values ≠ []) :
    joinExpressions (values.map fun v => (.both, f v)) = .chain .both (values.map f) := by
  cases values with
  | nil => exact absurd rfl hne
  | cons v values =>
      have hall : ∀ x ∈ values.map fun v => (Connector.both, f v),
          decide (x.1 = Connector.both) = true := by
        simp
      rw [joinExpressions, List.map_cons, runs, List.takeWhile_eq_self_iff.mpr hall,
        List.dropWhile_eq_nil_iff.mpr hall]
      simp [runs, Function.comp_def]

/-- The text of a membership test, without its parentheses. -/
def membershipText (attr : String) (values : List FilterValue) (negate : Bool) : String :=
  if values.isEmpty then attr ++ " pr and not (" ++ attr ++ " pr)"
  else
    joinClauses (values.map fun value =>
      (if negate then .both else .either, comparisonClause attr .eq value false))

lemma membershipClause_eq (attr : String) (values : List FilterValue) (negate : Bool) :
    membershipClause attr values negate
      = wrapExpression (membershipText attr values negate) negate true := rfl

/-- The comparisons that a membership test expands into. -/
def membershipClauses (attr : String) (values : List FilterValue) (negate : Bool) :
    List ReadClause :=
  values.map fun v =>
    ⟨if negate then .both else .either, comparisonClause attr .eq v false,
      .test attr .eq v.denoted⟩

lemma membershipText_eq {attr : String} {values : List FilterValue} {negate : Bool}
    (hne : values ≠ []) :
    membershipText attr values negate
      = joinClauses ((membershipClauses attr values negate).map ReadClause.written) := by
  simp [membershipText, membershipClauses, hne, ReadClause.written, Function.comp_def]

lemma membershipExpression_eq {attr : String} {values : List FilterValue} {negate : Bool}
    (hne : values ≠ []) :
    membershipExpression attr values negate
      = joinExpressions ((membershipClauses attr values negate).map ReadClause.read) := by
  have hboth := joinExpressions_both (fun v : FilterValue => .test attr .eq v.denoted) hne
  have heither := joinExpressions_either (fun v : FilterValue => .test attr .eq v.denoted) values
  cases negate <;>
    simp [membershipExpression, membershipClauses, hne, ReadClause.read, Function.comp_def,
      hboth, heither]

/-- A membership test is read as what it says of its values. -/
lemma readsFilter_membershipText {lax : Bool} {depth : Nat} {attr : String}
    {values : List FilterValue} {negate : Bool} (hattr : isAttributePath attr = true)
    (hvalues : values.all (·.isReadable lax) = true)
    (hdepth : (membershipText attr values negate).toList.length ≤ depth) :
    ReadsFilter (readFilter? lax (depth + 1)) (membershipText attr values negate).toList
      (membershipExpression attr values negate) := by
  intro rest hrest
  by_cases hempty : values.isEmpty = true
  · have htext : membershipText attr values negate
        = joinClauses [(.either, presenceClause attr false), (.both, presenceClause attr true)] := by
      rw [← String.toList_inj, joinClauses_cons]
      simp [membershipText, hempty, presenceClause, wrapExpression, Connector.keyword]
    have hexpr : membershipExpression attr values negate
        = joinExpressions [(.either, .present attr), (.both, .negation (.present attr))] := by
      simp [membershipExpression, hempty, joinExpressions, runs]
    rw [htext] at hdepth ⊢
    rw [hexpr]
    refine readJoined?_joinClauses hrest [⟨.either, presenceClause attr false, .present attr⟩,
      ⟨.both, presenceClause attr true, .negation (.present attr)⟩] (by simp) ?_
    have hpresence : ∀ negate, (presenceClause attr negate).toList.length ≤ depth := fun negate =>
      (length_le_joinClauses (c := if negate then .both else .either)
        (by cases negate <;> simp)).trans hdepth
    simp only [List.mem_cons, List.not_mem_nil, or_false, forall_eq_or_imp, forall_eq]
    exact ⟨readFactor?_presenceClause false hattr (hpresence false),
      readFactor?_presenceClause true hattr (hpresence true)⟩
  · have hne : values ≠ [] := by simpa using hempty
    rw [membershipText_eq hne] at hdepth ⊢
    rw [membershipExpression_eq hne]
    refine readJoined?_joinClauses hrest _ (by simpa [membershipClauses] using hne) fun c hc => ?_
    have hclause := (ReadClause.length_le hc).trans hdepth
    obtain ⟨v, hv, rfl⟩ := List.mem_map.mp hc
    exact readFactor?_comparisonClause false hattr (by decide) (List.all_eq_true.mp hvalues v hv)
      hclause

/-! ## Conditions -/

section Conditions

variable {lax : Bool} {d : Dialect}

/-- The clauses of a list of conditions. -/
def conditionClauses (d : Dialect) (conditions : List Condition) : List ReadClause :=
  conditions.map fun c => ⟨c.connector, d.clause c, c.expression⟩

lemma clauses_eq (d : Dialect) (conditions : List Condition) :
    d.clauses conditions = (conditionClauses d conditions).map ReadClause.written := by
  induction conditions with
  | nil => rfl
  | cons c conditions ih => rw [Dialect.clauses, ih]; rfl

lemma expressions_eq (d : Dialect) (conditions : List Condition) :
    Condition.expressions conditions = (conditionClauses d conditions).map ReadClause.read := by
  induction conditions with
  | nil => rfl
  | cons c conditions ih => rw [Condition.expressions, ih]; rfl

/-- No clause of a condition is longer than the filter. -/
lemma length_clause_le (d : Dialect) {conditions : List Condition} {c : Condition}
    (hc : c ∈ conditions) :
    (d.clause c).toList.length
      ≤ (joinClauses ((conditionClauses d conditions).map ReadClause.written)).toList.length := by
  have hmem : ReadClause.mk c.connector (d.clause c) c.expression ∈ conditionClauses d conditions :=
    List.mem_map.mpr ⟨c, hc, rfl⟩
  exact ReadClause.length_le hmem

lemma eq_of_isLoneMembership {conditions : List Condition}
    (h : isLoneMembership conditions = true) :
    ∃ attr values c, conditions = [.membership attr values c false] := by
  unfold isLoneMembership at h
  split at h
  · next attr values c => exact ⟨attr, values, c, rfl⟩
  · simp at h

/-- A membership test that stands alone sheds its parentheses and nothing else. -/
lemma finishFilter_membership (d : Dialect) (attr : String) (values : List FilterValue)
    (c : Connector) :
    finishFilter [.membership attr values c false] (d.clauses [.membership attr values c false])
      = membershipText attr values false := by
  have htext : (joinClauses (d.clauses [.membership attr values c false])).toList
      = '(' :: ((membershipText attr values false).toList ++ [')']) := by
    rw [Dialect.clauses, joinClauses_cons, Dialect.clause, membershipClause_eq]
    simp [wrapExpression, Dialect.clauses]
  have hlone : isLoneMembership [.membership attr values c false] = true := rfl
  rw [finishFilter, if_neg (by simp), if_pos hlone, htext, cutParentheses_append,
    String.ofList_toList]

lemma finishFilter_eq (d : Dialect) {conditions : List Condition} (hne : conditions ≠ [])
    (hlone : ¬ isLoneMembership conditions = true) :
    finishFilter conditions (d.clauses conditions)
      = joinClauses ((conditionClauses d conditions).map ReadClause.written) := by
  simp [finishFilter, hne, hlone, clauses_eq]

lemma finishExpression_eq (d : Dialect) {conditions : List Condition}
    (hlone : ¬ isLoneMembership conditions = true) :
    finishExpression conditions (Condition.expressions conditions)
      = joinExpressions ((conditionClauses d conditions).map ReadClause.read) := by
  rw [← expressions_eq, finishExpression]
  intro attr values c h
  exact hlone (h ▸ rfl)

/-- A list of conditions is read as its expression, if each of its clauses is. -/
lemma readsFilter_finishFilter {conditions : List Condition} {depth : Nat} (hne : conditions ≠ [])
    (hreadable : Condition.areReadable lax conditions = true)
    (hdepth : (finishFilter conditions (d.clauses conditions)).toList.length ≤ depth)
    (hclauses : (∀ c ∈ conditions, (d.clause c).toList.length ≤ depth) →
      ∀ c ∈ conditions,
        ReadAs (readFactor? lax (readFilter? lax depth)) (d.clause c).toList c.expression) :
    ReadsFilter (readFilter? lax (depth + 1))
      (finishFilter conditions (d.clauses conditions)).toList
      (finishExpression conditions (Condition.expressions conditions)) := by
  intro rest hrest
  by_cases hlone : isLoneMembership conditions = true
  · obtain ⟨attr, values, c, rfl⟩ := eq_of_isLoneMembership hlone
    simp only [Condition.areReadable, Condition.isReadable, Bool.and_eq_true] at hreadable
    rw [finishFilter_membership] at hdepth ⊢
    exact readsFilter_membershipText hreadable.1.1 hreadable.1.2 hdepth rest hrest
  · rw [finishFilter_eq d hne hlone] at hdepth ⊢
    rw [finishExpression_eq d hlone]
    refine readJoined?_joinClauses hrest _ (by simpa [conditionClauses] using hne) fun c hc => ?_
    obtain ⟨condition, hcondition, rfl⟩ := List.mem_map.mp hc
    exact hclauses (fun c hc => (length_clause_le d hc).trans hdepth) condition hcondition

mutual

/-- **The clause of a condition is read as its expression.** -/
theorem readFactor?_clause (hd : d.presence = presenceClause) :
    ∀ (condition : Condition) (depth : Nat), condition.isReadable lax = true →
      (d.clause condition).toList.length ≤ depth →
      ReadAs (readFactor? lax (readFilter? lax depth)) (d.clause condition).toList
        condition.expression
  | .comparison attr operator v _ negate, depth, h, hdepth => by
      simp only [Condition.isReadable, Bool.and_eq_true, decide_eq_true_eq] at h
      exact readFactor?_comparisonClause negate h.1.1 h.1.2 h.2 hdepth
  | .presence attr _ negate, depth, h, hdepth => by
      rw [Condition.isReadable] at h
      rw [Dialect.clause, hd] at hdepth ⊢
      exact readFactor?_presenceClause negate h hdepth
  | .membership attr values _ negate, depth, h, hdepth => by
      simp only [Condition.isReadable, Bool.and_eq_true] at h
      rw [Dialect.clause, membershipClause_eq] at hdepth ⊢
      have hlt := length_lt_wrapExpression (membershipText attr values negate) negate true (by simp)
      obtain ⟨depth, rfl⟩ : ∃ n, depth = n + 1 := ⟨depth - 1, by omega⟩
      exact readFactor?_wrap
        (fun _ => readsFilter_membershipText h.1 h.2 (by omega)) (by simp)
  | .raw _ _, _, h, _ => by simp [Condition.isReadable] at h
  | .group conditions _ negate, depth, h, hdepth => by
      simp only [Condition.isReadable, Bool.and_eq_true] at h
      rw [Dialect.clause] at hdepth ⊢
      have hlt := length_lt_wrapExpression (finishFilter conditions (d.clauses conditions))
        negate true (by simp)
      obtain ⟨depth, rfl⟩ : ∃ n, depth = n + 1 := ⟨depth - 1, by omega⟩
      exact readFactor?_wrap
        (fun _ => readsFilter_finishFilter (by simpa using h.1) h.2 (by omega)
          (readFactor?_clauses hd conditions depth h.2)) (by simp)

/-- The clauses of a list of conditions are read as their expressions. -/
theorem readFactor?_clauses (hd : d.presence = presenceClause) :
    ∀ (conditions : List Condition) (depth : Nat), Condition.areReadable lax conditions = true →
      (∀ c ∈ conditions, (d.clause c).toList.length ≤ depth) →
      ∀ c ∈ conditions,
        ReadAs (readFactor? lax (readFilter? lax depth)) (d.clause c).toList c.expression
  | [], _, _, _ => by simp
  | condition :: conditions, depth, h, hdepth => by
      simp only [Condition.areReadable, Bool.and_eq_true] at h
      have hfirst := readFactor?_clause hd condition depth h.1 (hdepth condition List.mem_cons_self)
      have hothers := readFactor?_clauses hd conditions depth h.2 fun c hc =>
        hdepth c (List.mem_cons_of_mem _ hc)
      intro c hc
      rcases List.mem_cons.mp hc with rfl | hc
      · exact hfirst
      · exact hothers c hc

end

/-- **The filter of a list of conditions is read as the expression of the list**, in every dialect
that tests presence as the standard does. -/
lemma readExpression?_filter_of_presence (hd : d.presence = presenceClause)
    {conditions : List Condition} (hne : conditions ≠ [])
    (h : Condition.areReadable lax conditions = true) :
    readExpression? lax (d.filter conditions) = some (filterExpression conditions) := by
  have hread := readsFilter_finishFilter hne h (le_refl _)
    (readFactor?_clauses hd conditions _ h) [] endsFilter_nil
  rw [List.append_nil] at hread
  rw [readExpression?, Dialect.filter, hread, filterExpression]

end Conditions

/-- **Compiling and reading back gives the tree.**  In both dialects that ship, the filter of any
readable conditions is accepted as a whole and read as the expression that they denote.  A lax reader
takes any text in a string but a backslash; a strict one takes no control characters either. -/
theorem readExpression?_filter (lax : Bool) {d : Dialect}
    (hd : d = .scim ∨ d = .pingDirectory) {conditions : List Condition} (hne : conditions ≠ [])
    (h : Condition.areReadable lax conditions = true) :
    readExpression? lax (d.filter conditions) = some (filterExpression conditions) := by
  have hpresence : d.presence = presenceClause := by
    rcases hd with rfl | rfl <;> rfl
  exact readExpression?_filter_of_presence hpresence hne h

/-- A tree with keywords for attribute names, quotes and parentheses in a string, a membership test in
a group and one without values. -/
theorem readExpression?_filter_nested :
    let conditions : List Condition :=
      [.comparison "and" .eq (.string "x\" or (y") .either true,
        .group [.membership "or" [.bool true, .integer (-5)] .either false] .both false,
        .presence "not" .either true, .membership "e" [] .both true]
    readExpression? true (Dialect.pingDirectory.filter conditions)
      = some (filterExpression conditions) :=
  readExpression?_filter true (Or.inr rfl) (by simp) (by decide)

end DirectorySearch
