import DirectorySearch.Proofs.Filter.RoundTrip

/-!
# What the cuts leave of a filter

A filter is glued together with a connector too many, and a membership test that stands alone with a
pair of parentheses too many.  Both are cut off by looking at the two ends of the text.  This file says
what the cuts leave, for clauses of any text: a clause may itself start with a connector, end with a
parenthesis or be empty.

* `Dialect.continuation` — conditions as they stand behind others.
* `Dialect.filter_cons` — a filter is its first clause and the continuation of the others.
* **`filter_assembly`** — so are the filters of two lists put together, and a membership test that
  stands alone is the comparisons it expands into.

Nothing is assumed of the dialect.
-/

namespace DirectorySearch

namespace Dialect

variable {d : Dialect}

/-- Conditions as they stand behind others: each clause after its own connector. -/
def continuation (d : Dialect) (conditions : List Condition) : String :=
  String.join (conditions.map fun c => " " ++ c.connector.keyword ++ " " ++ d.clause c)

lemma continuation_cons (c : Condition) (conditions : List Condition) :
    d.continuation (c :: conditions)
      = " " ++ c.connector.keyword ++ " " ++ d.clause c ++ d.continuation conditions :=
  String.join_cons

lemma continuation_append (conditions more : List Condition) :
    d.continuation (conditions ++ more) = d.continuation conditions ++ d.continuation more := by
  rw [continuation, List.map_append, String.join_append, continuation, continuation]

lemma toList_continuation (conditions : List Condition) :
    (d.continuation conditions).toList = connectedText (d.clauses conditions) := by
  induction conditions with
  | nil => rfl
  | cons c conditions ih =>
      rw [continuation_cons, clauses, connectedText_cons, String.toList_append, ih]
      simp

/-- **A filter is its first clause and the continuation of the others**, unless it is a membership test
alone. -/
lemma filter_cons {c : Condition} {conditions : List Condition}
    (hlone : isLoneMembership (c :: conditions) = false) :
    d.filter (c :: conditions) = d.clause c ++ d.continuation conditions := by
  rw [← String.toList_inj, filter, finishFilter_of_not_lone (by simp) (by simp [hlone]), clauses,
    joinClauses_cons, String.toList_append, toList_continuation]

lemma filter_append {xs ys : List Condition} {y : Condition} (hne : xs ≠ [])
    (hxs : isLoneMembership xs = false) (hys : isLoneMembership (y :: ys) = false) :
    d.filter (xs ++ y :: ys)
      = d.filter xs ++ " " ++ y.connector.keyword ++ " " ++ d.filter (y :: ys) := by
  obtain ⟨x, xs, rfl⟩ := List.exists_cons_of_ne_nil hne
  have hboth : isLoneMembership (x :: (xs ++ y :: ys)) = false := by
    cases xs <;> simp [isLoneMembership]
  rw [List.cons_append, filter_cons hboth, continuation_append, continuation_cons, filter_cons hxs,
    filter_cons hys]
  simp only [String.append_assoc]

/-- The comparisons that a membership test expands into. -/
lemma filter_comparisons (attr : String) {values : List FilterValue} (hne : values ≠ []) :
    d.filter (values.map fun v => .comparison attr .eq v .either false)
      = membershipText attr values false := by
  have hclauses : d.clauses (values.map fun v => .comparison attr .eq v .either false)
      = values.map fun v => (.either, comparisonClause attr .eq v false) := by
    rw [clauses_eq, conditionClauses, List.map_map, List.map_map]
    rfl
  have hlone : ¬ isLoneMembership (values.map fun v => .comparison attr .eq v .either false)
      = true := by
    intro h
    obtain ⟨attr', values', c, heq⟩ := eq_of_isLoneMembership h
    obtain ⟨v, -, hv⟩ := List.map_eq_singleton_iff.mp heq
    simp_all
  rw [filter, finishFilter_of_not_lone (by simpa using hne) hlone, hclauses, membershipText]
  simp [hne]

end Dialect

/-- **How the filters of a dialect are put together.** -/
structure FilterAssembly (d : Dialect) : Prop where
  /-- The clauses stand one after the other, each but the first after its own connector. -/
  clauses : ∀ c conditions, isLoneMembership (c :: conditions) = false →
    d.filter (c :: conditions) = d.clause c ++ d.continuation conditions
  /-- So do the filters of two lists. -/
  append : ∀ xs y ys, xs ≠ [] → isLoneMembership xs = false → isLoneMembership (y :: ys) = false →
    d.filter (xs ++ y :: ys)
      = d.filter xs ++ " " ++ y.connector.keyword ++ " " ++ d.filter (y :: ys)
  /-- A membership test alone is the comparisons with its values, joined by `or`. -/
  membership : ∀ attr values c, values ≠ [] →
    d.filter [.membership attr values c false]
      = d.filter (values.map fun v => .comparison attr .eq v .either false)
  /-- In a group of its own it has the parentheses of the group, and none besides. -/
  group : ∀ attr values c connector,
    d.clause (.group [.membership attr values c false] connector false)
      = d.clause (.membership attr values c false)

/-- **The cuts take off what was added and nothing else**, whatever the text of the clauses. -/
theorem filter_assembly (d : Dialect) : FilterAssembly d where
  clauses _ _ hlone := Dialect.filter_cons hlone
  append _ _ _ hne hxs hys := Dialect.filter_append hne hxs hys
  membership attr values c hne := by
    rw [Dialect.filter_comparisons attr hne, Dialect.filter, finishFilter_membership]
  group attr values c connector := by
    rw [Dialect.clause, Dialect.clause, finishFilter_membership, membershipClause_eq]

-- clauses that look like connectors, and parentheses that do not match
example : Dialect.scim.filter [.raw "OR (a" .either, .raw "" .both, .raw "and )" .either]
    = "OR (a and  or and )" := by decide

end DirectorySearch
