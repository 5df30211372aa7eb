import DirectorySearch.Proofs.Filter.Assembly
import DirectorySearch.Proofs.Filter.Meaning
import DirectorySearch.Query.Builder

/-!
# What membership tests find

A membership test is written out as comparisons, joined by `or`, and by `and` when it is negated.  The
negated test is therefore not the complement of the other: all it rules out is an entry that equals every
one of the values.

* `FilterValue.literal_eq_iff` — two values are written alike exactly if they are read alike.
* `holds_membershipExpression`, `holds_membershipExpression_negated` — what the comparisons come to.
* **`membership_filters`** — what a test and the negated test find, as their texts are read; and that
  they are opposites exactly if all values are written alike.

Without values, the test is written as a contradiction, and the negated test holds of every entry.
-/

namespace DirectorySearch

/-! ## Literals -/

/-- A value as it is written, from what it is read as. -/
def Literal.text : Literal → String
  | .null => "null"
  | .bool true => "true"
  | .bool false => "false"
  | .number text => text
  | .string s => String.ofList (stringLiteral s.toList)
  | .raw text => text

lemma FilterValue.text_denoted (v : FilterValue) : v.denoted.text = v.literal := by
  cases v with
  | bool b => cases b <;> rfl
  | integer n => rfl
  | float x =>
      rw [denoted, literal, doubleLiteral]
      cases x.number with
      | finite negative m e => rfl
      | nan => rfl
      | infinite negative => cases negative <;> rfl
  | string s => rfl
  | raw expression => rfl

/-- **Two values are written alike exactly if they are read alike.** -/
lemma FilterValue.literal_eq_iff {lax : Bool} {v w : FilterValue} (hv : v.isReadable lax = true)
    (hw : w.isReadable lax = true) : v.literal = w.literal ↔ v.denoted = w.denoted := by
  constructor
  · intro h
    have hread := readLiteral?_literal hv [] endsFilter_nil.endsWord
    rw [h, readLiteral?_literal hw [] endsFilter_nil.endsWord] at hread
    exact (Prod.mk.inj (Option.some.inj hread)).1.symm
  · intro h
    rw [← text_denoted, ← text_denoted, h]

/-! ## What the comparisons come to -/

section

variable {entry : Entry}

lemma holds_membershipExpression (attr : String) (values : List FilterValue) :
    (membershipExpression attr values false).holds entry
      = values.any fun v => entry.test attr .eq v.denoted := by
  cases values with
  | nil => simp [membershipExpression, FilterExpr.holds]
  | cons v values =>
      rw [membershipExpression, if_neg (by simp), if_neg Bool.false_ne_true,
        FilterExpr.holds_chain_either, List.any_map]
      rfl

lemma holds_membershipExpression_negated (attr : String) (values : List FilterValue) :
    (membershipExpression attr values true).holds entry
      = (!values.isEmpty && values.all fun v => entry.test attr .eq v.denoted) := by
  cases values with
  | nil => simp [membershipExpression, FilterExpr.holds]
  | cons v values =>
      rw [membershipExpression, if_neg (by simp), if_pos rfl,
        FilterExpr.holds_chain_both (by simp), List.all_map]
      rfl

end

section

variable {lax : Bool} {d : Dialect} {attr : String} {values : List FilterValue}

/-- An entry satisfies the clause of a comparison if it answers so. -/
lemma Entry.satisfies_comparisonClause_iff {entry : Entry} (hattr : isAttributePath attr = true)
    {v : FilterValue} (hv : v.isReadable lax = true) :
    entry.Satisfies lax (comparisonClause attr .eq v false)
      ↔ entry.test attr .eq v.denoted = true := by
  have hfilter : Dialect.scim.filter [.comparison attr .eq v .both false]
      = comparisonClause attr .eq v false := by
    rw [Dialect.filter_cons rfl, Dialect.clause, Dialect.continuation]
    simp
  have hreadable : Condition.areReadable lax [.comparison attr .eq v .both false] = true := by
    simp [Condition.areReadable, Condition.isReadable, hattr, hv]
  rw [← hfilter, satisfies_filter_iff rfl (Condition.areClean_of_areReadable hreadable),
    holds_filterExpression_cons, and_iff_right hreadable]
  rfl

/-- A membership test is written alike in all dialects. -/
lemma filter_addMembership (d : Dialect) (attr : String) (values : List FilterValue)
    (connector : Connector) (negate : Bool) :
    ((QueryBuilder.new d).addMembership attr values connector negate).filter
      = Dialect.scim.filter [.membership attr values connector negate] := rfl

variable (hattr : isAttributePath attr = true) (hvalues : ∀ v ∈ values, v.isReadable lax = true)
  (connector : Connector)

include hattr hvalues

/-- The filter of a membership test is read as the comparisons it is written out as. -/
lemma readExpression?_membership (negate : Bool) :
    readExpression? lax ((QueryBuilder.new d).addMembership attr values connector negate).filter
      = some (filterExpression [.membership attr values connector negate]) := by
  have hreadable : Condition.areReadable lax [.membership attr values connector negate] = true := by
    simpa [Condition.areReadable, Condition.isReadable, hattr] using hvalues
  rw [filter_addMembership]
  exact readExpression?_filter lax (Or.inl rfl) (List.cons_ne_nil _ _) hreadable

lemma Entry.satisfies_membership_iff {entry : Entry} (negate : Bool) :
    entry.Satisfies lax
        ((QueryBuilder.new d).addMembership attr values connector negate).filter
      ↔ ((membershipExpression attr values negate).wrap negate true).holds entry = true := by
  rw [Satisfies, readExpression?_membership hattr hvalues]
  simp only [Option.some.injEq, exists_eq_left', holds_filterExpression_cons]
  rfl

lemma Entry.satisfies_isIn_iff {entry : Entry} :
    entry.Satisfies lax ((QueryBuilder.new d).addMembership attr values connector false).filter
      ↔ ∃ v ∈ values, entry.test attr .eq v.denoted = true := by
  rw [satisfies_membership_iff hattr hvalues, FilterExpr.holds_wrap_group,
    holds_membershipExpression, List.any_eq_true]

lemma Entry.satisfies_notIn_iff {entry : Entry} :
    entry.Satisfies lax ((QueryBuilder.new d).addMembership attr values connector true).filter
      ↔ values = [] ∨ ∃ v ∈ values, ¬ entry.test attr .eq v.denoted = true := by
  have hwrap : ((membershipExpression attr values true).wrap true true).holds entry
      = !(membershipExpression attr values true).holds entry := rfl
  rw [satisfies_membership_iff hattr hvalues, hwrap, holds_membershipExpression_negated]
  simp only [Bool.not_and, Bool.not_not, Bool.or_eq_true, List.isEmpty_iff, Bool.not_eq_true',
    List.all_eq_false]

end

/-! ## Opposites -/

/-- Some answer and none, or one missing and none missing: these are opposites for all entries exactly
if there are no two values to tell apart. -/
lemma opposite_iff_denoted_eq (attr : String) (values : List FilterValue) :
    (∀ entry : Entry, (values = [] ∨ ∃ v ∈ values, ¬ entry.test attr .eq v.denoted = true)
        ↔ ¬ ∃ v ∈ values, entry.test attr .eq v.denoted = true)
      ↔ ∀ v ∈ values, ∀ w ∈ values, v.denoted = w.denoted := by
  constructor
  · intro h v hv w hw
    -- the entry that equals the one value, and nothing else
    let entry : Entry := { test := fun _ _ value => value = v.denoted, present := fun _ => true }
    by_contra hne
    refine (h entry).mp (Or.inr ⟨w, hw, ?_⟩) ⟨v, hv, ?_⟩
    · simpa [entry] using Ne.symm hne
    · simp [entry]
  · intro hsame entry
    constructor
    · rintro (rfl | ⟨v, hv, hdiffers⟩) ⟨w, hw, hequals⟩
      · cases hw
      · exact hdiffers (hsame v hv w hw ▸ hequals)
    · intro hnone
      cases values with
      | nil => exact Or.inl rfl
      | cons v values =>
          exact Or.inr ⟨v, List.mem_cons_self, fun hv => hnone ⟨v, List.mem_cons_self, hv⟩⟩

/-! ## What the filters find -/

/-- What a membership test and the negated test find, told by their texts and by the clauses of the
comparisons. -/
structure MembershipFilters (lax : Bool) (attr : String) (values : List FilterValue)
    (isIn notIn : String) : Prop where
  /-- Both are filters. -/
  readable : (readExpression? lax isIn).isSome = true ∧ (readExpression? lax notIn).isSome = true
  /-- The test finds the entries that equal one of the values. -/
  isIn_iff : ∀ entry : Entry, entry.Satisfies lax isIn
    ↔ ∃ v ∈ values, entry.Satisfies lax (comparisonClause attr .eq v false)
  /-- The negated test finds those that differ from one of them, and all if there are none. -/
  notIn_iff : ∀ entry : Entry, entry.Satisfies lax notIn
    ↔ values = [] ∨ ∃ v ∈ values, ¬ entry.Satisfies lax (comparisonClause attr .eq v false)
  /-- They are opposites for all entries exactly if all values are written alike. -/
  opposite_iff : (∀ entry : Entry, entry.Satisfies lax notIn ↔ ¬ entry.Satisfies lax isIn)
    ↔ ∀ v ∈ values, ∀ w ∈ values, v.literal = w.literal

/-- **What a membership test and the negated test find.** -/
theorem membership_filters (lax : Bool) (d : Dialect) {attr : String}
    (hattr : isAttributePath attr = true) {values : List FilterValue}
    (hvalues : ∀ v ∈ values, v.isReadable lax = true) (connector : Connector) :
    MembershipFilters lax attr values
      ((QueryBuilder.new d).addMembership attr values connector false).filter
      ((QueryBuilder.new d).addMembership attr values connector true).filter := by
  have hclause : ∀ entry : Entry, ∀ v ∈ values,
      (entry.Satisfies lax (comparisonClause attr .eq v false)
        ↔ entry.test attr .eq v.denoted = true) :=
    fun entry v hv => Entry.satisfies_comparisonClause_iff hattr (hvalues v hv)
  refine ⟨?_, fun entry => ?_, fun entry => ?_, ?_⟩
  · rw [readExpression?_membership hattr hvalues, readExpression?_membership hattr hvalues]
    exact ⟨rfl, rfl⟩
  · rw [Entry.satisfies_isIn_iff hattr hvalues]
    exact exists_congr fun v => and_congr_right fun hv => (hclause entry v hv).symm
  · rw [Entry.satisfies_notIn_iff hattr hvalues]
    exact or_congr_right
      (exists_congr fun v => and_congr_right fun hv => not_congr (hclause entry v hv).symm)
  · simp only [Entry.satisfies_isIn_iff hattr hvalues, Entry.satisfies_notIn_iff hattr hvalues]
    rw [opposite_iff_denoted_eq]
    exact forall₂_congr fun v hv => forall₂_congr fun w hw =>
      (FilterValue.literal_eq_iff (hvalues v hv) (hvalues w hw)).symm

/-- A number and a string that are told apart by their quotes alone: the two tests are no opposites. -/
theorem membership_filters_number_and_string :
    let values : List FilterValue := [.integer 1, .string "1"]
    let isIn := ((QueryBuilder.new .scim).addMembership "uid" values .both false).filter
    let notIn := ((QueryBuilder.new .scim).addMembership "uid" values .both true).filter
    MembershipFilters true "uid" values isIn notIn
      ∧ ¬ ∀ entry : Entry, entry.Satisfies true notIn ↔ ¬ entry.Satisfies true isIn := by
  intro values isIn notIn
  have hfilters : MembershipFilters true "uid" values isIn notIn :=
    membership_filters true .scim (by decide) (by decide) .both
  refine ⟨hfilters, fun h => ?_⟩
  have hsame := hfilters.opposite_iff.mp h (.integer 1) (by simp [values]) (.string "1") (by simp [values])
  exact absurd hsame (by decide)

end DirectorySearch
