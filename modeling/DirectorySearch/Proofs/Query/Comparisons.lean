import DirectorySearch.Proofs.Query.Calls
import Mathlib.Data.List.Forall2

/-!
# The ways to add a comparison

A comparison can be added with an operator and a value that may both be missing, with an operator of
any text and a value, or as a line of a batch.  Each way looks at the operator text for itself, some of
them more than once.  This file has one rule for all of them.

* `Operator.IsSpelledBy` — a text that is the keyword of an operator, in either case.
* **`ComparedAs`** — the rule: what condition an operator text and a value stand for, if both or one of
  them are there.
* `NeedsValue` — the operators for which the rule has nothing to say when there is no value.
* `addWhere_of_comparedAs`, `addWhere_of_needsValue` — the dynamic call follows the rule and refuses
  where there is none.  One of the two is always the case (`exists_comparedAs`).
* **`comparison_ways`** — the three ways agree on every query.
-/

namespace DirectorySearch

/-! ## Operator texts -/

/-- A text is the keyword of an operator, but for the case of its letters. -/
def Operator.IsSpelledBy (op : Operator) (text : String) : Prop :=
  foldCase text.toList = foldCase op.keyword.toList

lemma Operator.parse?_eq_some_iff {text : String} {op : Operator} :
    parse? text = some op ↔ op.IsSpelledBy text := by
  constructor
  · intro h
    have hsame := List.find?_some (show all.find? _ = some op from h)
    exact (sameIgnoringCase_iff.mp hsame).symm
  · intro h
    have hparse : parse? text = parse? op.keyword := by
      simp only [parse?, sameIgnoringCase, show foldCase text.toList = _ from h]
    rw [hparse]
    cases op <;> decide

lemma Operator.parse?_eq_none_iff {text : String} :
    parse? text = none ↔ ∀ op : Operator, ¬ op.IsSpelledBy text := by
  simp only [← parse?_eq_some_iff, Option.eq_none_iff_forall_ne_some, ne_eq]

/-- An operator text that asks for a value. -/
def NeedsValue (operator : Option String) : Prop :=
  ∃ (text : String) (op : Operator), operator = some text ∧ op.IsSpelledBy text ∧ op ≠ .pr

/-! ## The rule -/

/-- **What an operator text and a value stand for**, with the connector and the negation that are asked
for. -/
inductive ComparedAs (attr : String) (connector : Connector) (negate : Bool) :
    Option String → Option FilterValue → Condition → Prop
  /-- Without an operator, the attribute equals the value. -/
  | equal (v : FilterValue) :
      ComparedAs attr connector negate none (some v) (.comparison attr .eq v connector negate)
  /-- An operator compares. -/
  | keyword {text : String} {op : Operator} (h : op.IsSpelledBy text) (v : FilterValue) :
      ComparedAs attr connector negate (some text) (some v)
        (.comparison attr op v connector negate)
  /-- A text that is no operator is itself the value, whether there is another one or not. -/
  | text {text : String} (h : ∀ op : Operator, ¬ op.IsSpelledBy text) (value : Option FilterValue) :
      ComparedAs attr connector negate (some text) value
        (.comparison attr .eq (.string text) connector negate)
  /-- With neither, the attribute has no value. -/
  | absent : ComparedAs attr connector negate none none (.presence attr connector true)
  /-- Nor has it with the test of presence alone. -/
  | presence {text : String} (h : Operator.pr.IsSpelledBy text) :
      ComparedAs attr connector negate (some text) none (.presence attr connector true)

namespace ComparedAs

variable {attr : String} {operator : Option String} {value : Option FilterValue}
  {connector : Connector} {negate : Bool} {c : Condition}

lemma connector_eq (h : ComparedAs attr connector negate operator value c) :
    c.connector = connector := by
  cases h <;> rfl

end ComparedAs

/-- Where the rule says nothing, a value is missing. -/
lemma exists_comparedAs (attr : String) (operator : Option String) (value : Option FilterValue)
    (connector : Connector) (negate : Bool) :
    (NeedsValue operator ∧ value = none) ∨ ∃ c, ComparedAs attr connector negate operator value c := by
  cases operator with
  | none =>
      cases value with
      | none => exact Or.inr ⟨_, .absent⟩
      | some v => exact Or.inr ⟨_, .equal v⟩
  | some text =>
      cases hparse : Operator.parse? text with
      | none => exact Or.inr ⟨_, .text (Operator.parse?_eq_none_iff.mp hparse) value⟩
      | some op =>
          have hop := Operator.parse?_eq_some_iff.mp hparse
          cases value with
          | some v => exact Or.inr ⟨_, .keyword hop v⟩
          | none =>
              by_cases hpr : op = .pr
              · exact Or.inr ⟨_, .presence (hpr ▸ hop)⟩
              · exact Or.inl ⟨⟨text, op, rfl, hop, hpr⟩, rfl⟩

namespace QueryBuilder

variable {b : QueryBuilder} {attr : String} {operator : Option String}
  {value : Option FilterValue} {connector : Connector} {negate : Bool}

/-! ## With a value -/

/-- A comparison with a value by an operator of any text follows the rule. -/
lemma compareBy_of_comparedAs {v : FilterValue} {c : Condition}
    (h : ComparedAs attr connector negate operator (some v) c) :
    b.compareBy attr (operator.getD Operator.eq.keyword) v connector negate
      = { b with conditions := b.conditions ++ [c] } := by
  cases h with
  | equal => rfl
  | keyword hop =>
      rw [compareBy, Option.getD_some, Operator.parse?_eq_some_iff.mpr hop]
      rfl
  | text hno =>
      rw [compareBy, Option.getD_some, Operator.parse?_eq_none_iff.mpr hno]
      rfl

/-- With a value, the dynamic call makes the comparison and is never refused. -/
lemma addWhere_some (b : QueryBuilder) (attr : String) (operator : Option String) (v : FilterValue)
    (connector : Connector) (negate : Bool) :
    b.addWhere attr operator (some v) connector negate
      = .ok (b.compareBy attr (operator.getD Operator.eq.keyword) v connector negate) := by
  cases operator <;> rfl

/-! ## With a value or without -/

/-- **The dynamic call follows the rule.** -/
lemma addWhere_of_comparedAs {c : Condition}
    (h : ComparedAs attr connector negate operator value c) :
    b.addWhere attr operator value connector negate
      = .ok { b with conditions := b.conditions ++ [c] } := by
  cases value with
  | some v => rw [addWhere_some, compareBy_of_comparedAs h]
  | none =>
      cases h with
      | absent => rfl
      | text hno =>
          have hparse := Operator.parse?_eq_none_iff.mpr hno
          simp [addWhere, prepare, invalidOperatorAndValue, invalidOperator, hparse, compare, push,
            Condition.isEmptyGroup]
      | presence hpr =>
          have hparse := Operator.parse?_eq_some_iff.mpr hpr
          simp [addWhere, prepare, invalidOperatorAndValue, invalidOperator, hparse, addPresence,
            push, Condition.isEmptyGroup]

/-- **It is refused where a value is missing.** -/
lemma addWhere_of_needsValue (h : NeedsValue operator) :
    b.addWhere attr operator none connector negate = .error .illegalOperatorAndValue := by
  obtain ⟨text, op, rfl, hop, hpr⟩ := h
  have hparse := Operator.parse?_eq_some_iff.mpr hop
  simp [addWhere, prepare, invalidOperatorAndValue, hparse, hpr]

lemma addWhere_eq_ok_iff {c : Condition} :
    b.addWhere attr operator value connector negate
        = .ok { b with conditions := b.conditions ++ [c] }
      ↔ ComparedAs attr connector negate operator value c := by
  refine ⟨fun h => ?_, addWhere_of_comparedAs⟩
  rcases exists_comparedAs attr operator value connector negate with ⟨hneeds, rfl⟩ | ⟨c', hc'⟩
  · rw [addWhere_of_needsValue hneeds] at h
    cases h
  · rw [addWhere_of_comparedAs hc', Except.ok.injEq, QueryBuilder.mk.injEq] at h
    obtain rfl : c' = c := by simpa using h.1
    exact hc'

lemma addWhere_eq_error_iff {e : QueryError} :
    b.addWhere attr operator value connector negate = .error e
      ↔ NeedsValue operator ∧ value = none := by
  constructor
  · intro h
    rcases exists_comparedAs attr operator value connector negate with hneeds | ⟨c, hc⟩
    · exact hneeds
    · rw [addWhere_of_comparedAs hc] at h
      cases h
  · rintro ⟨hneeds, rfl⟩
    exact addWhere_of_needsValue hneeds

end QueryBuilder

/-! ## As a line of a batch -/

/-- The attribute, the operator text and the value of each line of a batch. -/
def Batch.comparisons : Batch → List (String × Option String × FilterValue)
  | .map entries => entries.map fun entry => (entry.1, none, entry.2)
  | .lines list => list.map fun
    | .value attr v => (attr, none, v)
    | .operator attr op v => (attr, some op, v)

/-- How the lines of a batch are joined inside its group. -/
def Batch.inside : Batch → Connector → Connector
  | .map _, connector => connector
  | .lines _, _ => .both

/-- Conditions that the lines of a batch stand for. -/
def Batch.StandsFor (batch : Batch) (connector : Connector) (conditions : List Condition) : Prop :=
  List.Forall₂ (fun line c =>
    ComparedAs line.1 (batch.inside connector) false line.2.1 (some line.2.2) c)
    batch.comparisons conditions

lemma Batch.exists_standsFor (batch : Batch) (connector : Connector) :
    ∃ conditions, batch.StandsFor connector conditions := by
  unfold StandsFor
  generalize batch.comparisons = lines
  induction lines with
  | nil => exact ⟨[], .nil⟩
  | cons line lines ih =>
      obtain ⟨conditions, hconditions⟩ := ih
      rcases exists_comparedAs line.1 line.2.1 (some line.2.2) (batch.inside connector) false with
        ⟨-, hvalue⟩ | ⟨c, hc⟩
      · cases hvalue
      · exact ⟨c :: conditions, .cons hc hconditions⟩

namespace QueryBuilder

/-- Calls that add a condition each, one after the other. -/
lemma performAll_of_adds {calls : List BuilderCall} {conditions : List Condition}
    (h : List.Forall₂ (fun call c => ∀ b : QueryBuilder,
      (b.perform call).2 = { b with conditions := b.conditions ++ [c] }) calls conditions)
    (b : QueryBuilder) :
    (b.performAll calls).2 = { b with conditions := b.conditions ++ conditions } := by
  induction h generalizing b with
  | nil => rw [List.append_nil]; rfl
  | cons hcall _ ih =>
      rw [performAll]
      dsimp only
      rw [ih, hcall, List.append_assoc]
      rfl

/-- The calls of a batch add the conditions of its lines. -/
lemma performAll_batch {batch : Batch} {connector : Connector} {conditions : List Condition}
    (h : batch.StandsFor connector conditions) (b : QueryBuilder) :
    (b.performAll (batch.calls connector)).2
      = { b with conditions := b.conditions ++ conditions } := by
  refine performAll_of_adds ?_ b
  cases batch with
  | map entries =>
      rw [Batch.StandsFor, Batch.comparisons, List.forall₂_map_left_iff] at h
      rw [Batch.calls, List.forall₂_map_left_iff]
      refine h.imp fun entry c hc b => ?_
      cases hc
      rfl
  | lines list =>
      rw [Batch.StandsFor, Batch.comparisons, List.forall₂_map_left_iff] at h
      rw [Batch.calls, List.forall₂_map_left_iff]
      refine h.imp fun line c hc b => ?_
      cases line with
      | value attr v =>
          cases hc
          rfl
      | operator attr op v =>
          have hcompare := compareBy_of_comparedAs (b := b) hc
          rw [Option.getD_some] at hcompare
          exact hcompare

end QueryBuilder

/-! ## The result -/

/-- **What may be relied on when a comparison is added** to a query. -/
structure ComparisonWays (b : QueryBuilder) : Prop where
  /-- The dynamic call is refused, and leaves the query as it was, exactly where an operator needs a
  value and there is none. -/
  refused_iff : ∀ attr operator value connector negate,
    b.perform (.addWhere attr operator value connector negate) = ([.illegalOperatorAndValue], b)
      ↔ NeedsValue operator ∧ value = none
  /-- It adds one condition, exactly that of the rule. -/
  added_iff : ∀ attr operator value connector negate c,
    b.perform (.addWhere attr operator value connector negate)
        = ([], { b with conditions := b.conditions ++ [c] })
      ↔ ComparedAs attr connector negate operator value c
  /-- Where it is not refused there is such a condition, joined as it was asked for. -/
  otherwise : ∀ attr operator value connector negate, ¬ (NeedsValue operator ∧ value = none) →
    ∃ c, ComparedAs attr connector negate operator value c ∧ c.connector = connector
  /-- With a value, the call by an operator of any text does the same. -/
  fluent : ∀ attr operator v connector negate,
    b.perform (.addWhere attr operator (some v) connector negate)
      = b.perform (.compareBy attr (operator.getD Operator.eq.keyword) v connector negate)
  /-- A batch adds a group of the conditions that the rule gives for its lines. -/
  batch : ∀ (batch : Batch) connector negate, ∃ conditions,
    batch.StandsFor connector conditions
      ∧ (b.addBatch batch connector negate).conditions
        = b.conditions ++ Condition.grouped conditions connector negate

/-- **The dynamic, the fluent and the batched way to add a comparison agree.** -/
theorem comparison_ways (b : QueryBuilder) : ComparisonWays b where
  refused_iff attr operator value connector negate := by
    have herror : b.addWhere attr operator value connector negate = .error .illegalOperatorAndValue
        ↔ NeedsValue operator ∧ value = none := QueryBuilder.addWhere_eq_error_iff
    rw [← herror, QueryBuilder.perform]
    cases b.addWhere attr operator value connector negate <;> simp
  added_iff attr operator value connector negate c := by
    rw [← QueryBuilder.addWhere_eq_ok_iff (b := b), QueryBuilder.perform]
    cases b.addWhere attr operator value connector negate <;> simp
  otherwise attr operator value connector negate h := by
    obtain ⟨c, hc⟩ := (exists_comparedAs attr operator value connector negate).resolve_left h
    exact ⟨c, hc, hc.connector_eq⟩
  fluent attr operator v connector negate := by
    rw [QueryBuilder.perform, QueryBuilder.addWhere_some, QueryBuilder.perform]
  batch batch connector negate := by
    obtain ⟨conditions, h⟩ := batch.exists_standsFor connector
    refine ⟨conditions, h, ?_⟩
    rw [QueryBuilder.addBatch_eq, QueryBuilder.conditions_addGroupOf,
      QueryBuilder.performAll_batch h]
    rfl

-- a keyword in mixed case needs a value, a text one letter longer is one
example (b : QueryBuilder) :
    b.addWhere "age" (some "gT") none .either true = .error .illegalOperatorAndValue := rfl

example (b : QueryBuilder) :
    b.addWhere "age" (some "gte") none .either true
      = .ok (b.compare "age" .eq (.string "gte") .either true) := rfl

end DirectorySearch
