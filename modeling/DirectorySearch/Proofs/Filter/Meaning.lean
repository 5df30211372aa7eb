import DirectorySearch.Proofs.Filter.Unreadable

/-!
# Which entries a filter finds

An entry answers each test of an attribute with a truth value, and a filter puts the answers together.
Nothing else is known of an entry, so what is said here holds for every directory.

* `Entry`, `FilterExpr.holds` — the answers, and what an expression makes of them.
* `Entry.Satisfies` — an entry satisfies a text if the text is read as a filter that holds of it.
* `joinAnswers` — the answers of some clauses put together from left to right.
* `holds_filterExpression_cons` — that is what the expression of a list of conditions does, although it
  is built from runs.
* `beforeLastOr` — the conditions in front of the last `or`.
* **`holds_filterExpression_append`** — what one more condition does to a filter: it narrows down the
  last run only, so whatever the conditions before the last `or` find is still found.
* `forall_satisfies_append_iff` — when all that is found satisfies that condition.
-/

namespace DirectorySearch

/-! ## Entries -/

/-- An entry, as far as a filter can tell. -/
structure Entry where
  /-- How an attribute compares with a value. -/
  test : String → Operator → Literal → Bool
  /-- Whether an attribute has a value. -/
  present : String → Bool

/-- Whether an expression holds of an entry.  Unread text holds of none. -/
def FilterExpr.holds (entry : Entry) : FilterExpr → Bool
  | .test attr operator value => entry.test attr operator value
  | .present attr => entry.present attr
  | .negation e => !e.holds entry
  | .group e => e.holds entry
  | .both a b => a.holds entry && b.holds entry
  | .either a b => a.holds entry || b.holds entry
  | .raw _ => false

/-- **An entry satisfies a filter**: the text is read as a filter, and this holds of the entry. -/
def Entry.Satisfies (entry : Entry) (lax : Bool) (filter : String) : Prop :=
  ∃ e, readExpression? lax filter = some e ∧ e.holds entry = true

variable {entry : Entry}

namespace FilterExpr

lemma holds_wrap_group (e : FilterExpr) : (e.wrap false true).holds entry = e.holds entry := rfl

lemma holds_chain_both {es : List FilterExpr} (hne : es ≠ []) :
    (chain .both es).holds entry = es.all (·.holds entry) := by
  induction es with
  | nil => exact absurd rfl hne
  | cons e es ih =>
      cases es with
      | nil => simp
      | cons f es => rw [chain_cons_cons, holds, ih (by simp), List.all_cons (a := e)]

lemma holds_chain_either (es : List FilterExpr) :
    (chain .either es).holds entry = es.any (·.holds entry) := by
  induction es with
  | nil => rfl
  | cons e es ih =>
      cases es with
      | nil => simp
      | cons f es => rw [chain_cons_cons, holds, ih, List.any_cons (a := e)]

end FilterExpr

/-! ## Answers put together -/

/-- Answers put together from left to right; the first argument is what the run so far comes to. -/
def joinAnswers (run : Bool) : List (Connector × Bool) → Bool
  | [] => run
  | (.both, answer) :: answers => joinAnswers (run && answer) answers
  | (.either, answer) :: answers => run || joinAnswers answer answers

/-- The answers of an entry to some clauses. -/
def answersTo (entry : Entry) (clauses : List (Connector × FilterExpr)) : List (Connector × Bool) :=
  clauses.map fun clause => (clause.1, clause.2.holds entry)

/-- The answers come to the run so far, with the clauses that go on with it, or to one of the runs
behind. -/
lemma joinAnswers_eq_or (run : Bool) (clauses : List (Connector × FilterExpr)) :
    joinAnswers run (answersTo entry clauses)
      = (run && ((clauses.takeWhile (·.1 = .both)).map Prod.snd).all (·.holds entry)
          || (joinExpressions (clauses.dropWhile (·.1 = .both))).holds entry) := by
  induction clauses generalizing run with
  | nil => simp [answersTo, joinAnswers, joinExpressions, runs, FilterExpr.chain, FilterExpr.holds]
  | cons clause clauses ih =>
      obtain ⟨c, e⟩ := clause
      rw [answersTo, List.map_cons, ← answersTo]
      cases c with
      | both => simp [joinAnswers, ih, Bool.and_assoc]
      | either =>
          simp [joinAnswers, ih, joinExpressions, runs, FilterExpr.holds_chain_either,
            FilterExpr.holds_chain_both]

lemma holds_joinExpressions_cons (c : Connector) (e : FilterExpr)
    (clauses : List (Connector × FilterExpr)) :
    (joinExpressions ((c, e) :: clauses)).holds entry
      = joinAnswers (e.holds entry) (answersTo entry clauses) := by
  rw [joinAnswers_eq_or]
  simp [joinExpressions, runs, FilterExpr.holds_chain_either, FilterExpr.holds_chain_both]

/-! ## Conditions -/

/-- The answer of an entry to a condition, with its connector. -/
def Condition.answer (entry : Entry) (c : Condition) : Connector × Bool :=
  (c.connector, c.expression.holds entry)

lemma holds_filterExpression_eq (conditions : List Condition) :
    (filterExpression conditions).holds entry
      = (joinExpressions (Condition.expressions conditions)).holds entry := by
  by_cases hlone : isLoneMembership conditions = true
  · obtain ⟨attr, values, c, rfl⟩ := eq_of_isLoneMembership hlone
    simp [filterExpression, finishExpression, Condition.expressions, Condition.expression,
      joinExpressions, runs, FilterExpr.holds_wrap_group]
  · rw [filterExpression, finishExpression]
    intro attr values c h
    exact hlone (h ▸ rfl)

lemma holds_filterExpression_nil : (filterExpression []).holds entry = false := by
  simp [filterExpression, finishExpression, Condition.expressions, joinExpressions, runs,
    FilterExpr.chain, FilterExpr.holds]

/-- **A list of conditions holds** as its answers are put together. -/
lemma holds_filterExpression_cons (c : Condition) (conditions : List Condition) :
    (filterExpression (c :: conditions)).holds entry
      = joinAnswers (c.expression.holds entry) (conditions.map (Condition.answer entry)) := by
  have hanswers : answersTo entry (Condition.expressions conditions)
      = conditions.map (Condition.answer entry) := by
    rw [answersTo, expressions_eq .scim, conditionClauses, List.map_map, List.map_map]
    rfl
  rw [holds_filterExpression_eq, Condition.expressions, holds_joinExpressions_cons, hanswers]

/-- **An entry satisfies the filter of clean conditions** if they are readable and hold of it. -/
lemma Entry.satisfies_filter_iff {lax : Bool} {d : Dialect} (hd : d.presence = presenceClause)
    {conditions : List Condition} (hclean : Condition.areClean lax conditions = true) :
    entry.Satisfies lax (d.filter conditions)
      ↔ Condition.areReadable lax conditions = true
        ∧ (filterExpression conditions).holds entry = true := by
  rw [Satisfies, readExpression?_filter_clean hd hclean]
  cases conditions with
  | nil => simp [holds_filterExpression_nil]
  | cons c conditions => cases Condition.areReadable lax (c :: conditions) <;> simp

/-! ## One more condition -/

/-- **The conditions in front of the last `or`**; none, if no condition but the first is joined by
it. -/
def beforeLastOr : List Condition → List Condition
  | [] => []
  | c :: conditions =>
    if conditions.any (·.connector = .either) then c :: beforeLastOr conditions else []

lemma mem_of_mem_beforeLastOr {conditions : List Condition} {c : Condition}
    (h : c ∈ beforeLastOr conditions) : c ∈ conditions := by
  induction conditions with
  | nil => exact h
  | cons b conditions ih =>
      rw [beforeLastOr] at h
      split at h
      · rcases List.mem_cons.mp h with rfl | h
        · exact List.mem_cons_self
        · exact List.mem_cons_of_mem _ (ih h)
      · cases h

lemma beforeLastOr_eq_nil {conditions : List Condition}
    (h : ∀ c ∈ conditions.tail, c.connector = .both) : beforeLastOr conditions = [] := by
  cases conditions with
  | nil => rfl
  | cons c conditions =>
      rw [beforeLastOr, if_neg]
      simp_all

lemma joinAnswers_append {c : Condition} (hc : c.connector = .both) (run : Bool)
    (conditions : List Condition) :
    joinAnswers run ((conditions ++ [c]).map (Condition.answer entry))
      = (conditions.any (·.connector = .either)
            && joinAnswers run ((beforeLastOr conditions).map (Condition.answer entry))
          || joinAnswers run (conditions.map (Condition.answer entry))
            && c.expression.holds entry) := by
  induction conditions generalizing run with
  | nil => simp [joinAnswers, Condition.answer, hc]
  | cons b conditions ih =>
      rw [List.cons_append, List.map_cons, List.map_cons, List.any_cons, beforeLastOr,
        Condition.answer]
      cases hb : b.connector with
      | both =>
          rw [joinAnswers, joinAnswers, ih]
          cases hany : conditions.any (·.connector = .either) with
          | false => simp
          | true => simp [joinAnswers, Condition.answer, hb]
      | either =>
          rw [joinAnswers, joinAnswers, ih]
          -- a run that holds settles the rest, and one that does not adds nothing to it
          cases hany : conditions.any (·.connector = .either) with
          | false => cases run <;> simp [joinAnswers]
          | true => cases run <;> simp [joinAnswers, Condition.answer, hb]

/-- **One more condition that is joined by `and`** narrows down the last run, and nothing else. -/
theorem holds_filterExpression_append {c : Condition} (hc : c.connector = .both)
    {conditions : List Condition} (hne : conditions ≠ []) :
    (filterExpression (conditions ++ [c])).holds entry
      = ((filterExpression (beforeLastOr conditions)).holds entry
          || (filterExpression conditions).holds entry && c.expression.holds entry) := by
  cases conditions with
  | nil => exact absurd rfl hne
  | cons b conditions =>
      rw [List.cons_append, holds_filterExpression_cons, holds_filterExpression_cons,
        joinAnswers_append hc, beforeLastOr]
      cases conditions.any (·.connector = .either) with
      | false => rw [if_neg Bool.false_ne_true, Bool.false_and, holds_filterExpression_nil]
      | true => rw [if_pos rfl, holds_filterExpression_cons, Bool.true_and]

/-- **What is found with one more condition** that is joined by `and` satisfies it, exactly if all that
the conditions before the last `or` find satisfies it. -/
theorem forall_satisfies_append_iff {lax : Bool} {d : Dialect} (hd : d.presence = presenceClause)
    {conditions : List Condition} (hclean : Condition.areClean lax conditions = true) {c : Condition}
    (hc : c.isReadable lax = true) (hboth : c.connector = .both) :
    (∀ entry : Entry, entry.Satisfies lax (d.filter (conditions ++ [c])) →
        c.expression.holds entry = true)
      ↔ (Condition.areReadable lax conditions = true → beforeLastOr conditions ≠ [] →
          ∀ entry : Entry, entry.Satisfies lax (d.filter (beforeLastOr conditions)) →
            c.expression.holds entry = true) := by
  have hall : Condition.areClean lax (conditions ++ [c]) = true := by
    rw [Condition.areClean_iff, List.forall_mem_append, List.forall_mem_singleton]
    exact ⟨Condition.areClean_iff.mp hclean, Condition.isClean_of_isReadable hc⟩
  have hbefore : Condition.areClean lax (beforeLastOr conditions) = true :=
    Condition.areClean_iff.mpr fun b hb =>
      Condition.areClean_iff.mp hclean b (mem_of_mem_beforeLastOr hb)
  have hreadable : Condition.areReadable lax (conditions ++ [c]) = true
      ↔ Condition.areReadable lax conditions = true := by
    rw [Condition.areReadable_iff, Condition.areReadable_iff, List.forall_mem_append,
      List.forall_mem_singleton, and_iff_left hc]
  simp only [Entry.satisfies_filter_iff hd hall, Entry.satisfies_filter_iff hd hbefore, hreadable]
  cases conditions with
  | nil => simp [holds_filterExpression_cons, holds_filterExpression_nil, beforeLastOr, joinAnswers]
  | cons b conditions =>
      constructor
      -- what the conditions before the last `or` find, the whole filter finds
      · rintro h hread - entry ⟨-, hholds⟩
        refine h entry ⟨hread, ?_⟩
        rw [holds_filterExpression_append hboth (by simp), hholds, Bool.true_or]
      -- and what it finds besides is found by its last run
      · rintro h entry ⟨hread, hholds⟩
        rw [holds_filterExpression_append hboth (by simp), Bool.or_eq_true, Bool.and_eq_true] at hholds
        rcases hholds with hfirst | ⟨-, hlast⟩
        · have hne : beforeLastOr (b :: conditions) ≠ [] := fun hempty => by
            rw [hempty, holds_filterExpression_nil] at hfirst
            cases hfirst
          refine h hread hne entry ⟨Condition.areReadable_iff.mpr fun a ha => ?_, hfirst⟩
          exact Condition.areReadable_iff.mp hread a (mem_of_mem_beforeLastOr ha)
        · exact hlast

end DirectorySearch
