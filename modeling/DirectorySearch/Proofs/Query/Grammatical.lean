import DirectorySearch.Proofs.Filter.Scan
import DirectorySearch.Proofs.Query.Calls

/-!
# Which queries have a grammatical filter

The filter of a query is a sentence as long as nothing in it tests presence with a value.  This file
finds the calls that put such a test into a query.

* `BuilderCall.isPlain` — no raw text, attribute paths for names, and values and operators that stand
  for themselves.
* `BuilderCall.pairs` — a call by an operator of any text that is given `pr` and a value.
  `BuilderCall.anyPairs` looks for one among the calls that have not been dropped by starting over.
* `QueryBuilder.Holds` — what is known of a query that was built by plain calls: its conditions are
  plain, and whether presence is tested with a value.  `perform_holds` is the step and
  `performAll_holds` the list of calls.
* **`isSentence_filter_iff`** — the filter is a sentence of the grammar, or there is none, exactly when
  no call pairs `pr` with a value.
-/

namespace DirectorySearch

/-! ## Calls -/

def BatchLine.isPlain : BatchLine → Bool
  | .value attr v => isAttributePath attr && v.isReadable false
  | .operator attr op v =>
    isAttributePath attr && (FilterValue.string op).isReadable false && v.isReadable false

def Batch.isPlain : Batch → Bool
  | .map entries => entries.all fun entry => isAttributePath entry.1 && entry.2.isReadable false
  | .lines list => list.all BatchLine.isPlain

mutual

/-- A call without raw text whose attributes are attribute paths, and whose strings and operators are
free of backslashes and control characters. -/
def BuilderCall.isPlain : BuilderCall → Bool
  | .shorthand _ attr value _ _ => isAttributePath attr && value.isReadable false
  | .addWhere attr operator value _ _ =>
    isAttributePath attr && operator.all (fun op => (FilterValue.string op).isReadable false)
      && value.all (·.isReadable false)
  | .compareBy attr operator value _ _ =>
    isAttributePath attr && (FilterValue.string operator).isReadable false && value.isReadable false
  | .addPresence attributes _ _ => attributes.all isAttributePath
  | .addMembership attr values _ _ => isAttributePath attr && values.all (·.isReadable false)
  | .addRaw _ _ | .whereWith _ _ _ => false
  | .addGroup calls _ _ | .addGroupOf _ calls _ _ => BuilderCall.arePlain calls
  | .addBatch batch _ _ => batch.isPlain
  | .select _ | .take _ | .skip _ | .newQuery => true

def BuilderCall.arePlain : List BuilderCall → Bool
  | [] => true
  | call :: calls => call.isPlain && BuilderCall.arePlain calls

end

/-- Whether a text is the operator `pr`, in either case. -/
def namesPresence (operator : String) : Bool := Operator.parse? operator = some .pr

def BatchLine.pairs : BatchLine → Bool
  | .value _ _ => false
  | .operator _ op _ => namesPresence op

def Batch.pairs : Batch → Bool
  | .map _ => false
  | .lines list => list.any BatchLine.pairs

/-- Whether a call drops the conditions there are. -/
def BuilderCall.startsOver : BuilderCall → Bool
  | .newQuery => true
  | _ => false

mutual

/-- Whether a call puts a comparison by `pr` with a value into a query. -/
def BuilderCall.pairs : BuilderCall → Bool
  | .compareBy _ operator _ _ _ => namesPresence operator
  | .addWhere _ (some operator) (some _) _ _ => namesPresence operator
  | .addGroup calls _ _ | .addGroupOf _ calls _ _ => BuilderCall.anyPairs calls
  | .addBatch batch _ _ => batch.pairs
  | _ => false

/-- Whether calls do, and do not start over later. -/
def BuilderCall.anyPairs : List BuilderCall → Bool
  | [] => false
  | call :: calls =>
    call.pairs && !calls.any BuilderCall.startsOver || BuilderCall.anyPairs calls

end

/-! ## Conditions -/

lemma Condition.arePlain_append (conditions more : List Condition) :
    Condition.arePlain (conditions ++ more)
      = (Condition.arePlain conditions && Condition.arePlain more) := by
  induction conditions with
  | nil => rfl
  | cons c conditions ih => rw [List.cons_append, arePlain, ih, arePlain, Bool.and_assoc]

lemma Condition.anyMisusesPresence_append (conditions more : List Condition) :
    Condition.anyMisusesPresence (conditions ++ more)
      = (Condition.anyMisusesPresence conditions || Condition.anyMisusesPresence more) := by
  induction conditions with
  | nil => rfl
  | cons c conditions ih =>
      rw [List.cons_append, anyMisusesPresence, ih, anyMisusesPresence, Bool.or_assoc]

lemma Condition.arePlain_grouped {conditions : List Condition}
    (h : Condition.arePlain conditions = true) (connector : Connector) (negate : Bool) :
    Condition.arePlain (Condition.grouped conditions connector negate) = true := by
  rw [grouped]
  split
  · rfl
  · next hne => simp [arePlain, isPlain, hne, h]

lemma Condition.anyMisusesPresence_grouped (conditions : List Condition) (connector : Connector)
    (negate : Bool) :
    Condition.anyMisusesPresence (Condition.grouped conditions connector negate)
      = Condition.anyMisusesPresence conditions := by
  cases conditions with
  | nil => rfl
  | cons c conditions => simp [grouped, anyMisusesPresence, misusesPresence]

namespace QueryBuilder

/-- The conditions of a query are plain, and `pair` says whether they test presence with a value. -/
structure Holds (b : QueryBuilder) (pair : Bool) : Prop where
  plain : Condition.arePlain b.conditions = true
  pair : Condition.anyMisusesPresence b.conditions = pair

namespace Holds

variable {b b₁ : QueryBuilder} {pair : Bool}

lemma new (d : Dialect) : (QueryBuilder.new d).Holds false := ⟨rfl, rfl⟩

/-- A query with one more condition that is no group. -/
lemma append (h : b.Holds pair) {c : Condition} (hc : c.isPlain = true) :
    ({ b with conditions := b.conditions ++ [c] } : QueryBuilder).Holds
      (c.misusesPresence || pair) where
  plain := by
    rw [Condition.arePlain_append, h.plain]
    simp [Condition.arePlain, hc]
  pair := by
    rw [Condition.anyMisusesPresence_append, h.pair, Bool.or_comm]
    simp [Condition.anyMisusesPresence]

lemma compare (h : b.Holds pair) {attr : String} (operator : Operator) {value : FilterValue}
    (connector : Connector) (negate : Bool) (hattr : isAttributePath attr = true)
    (hvalue : value.isReadable false = true) :
    (b.compare attr operator value connector negate).Holds (decide (operator = .pr) || pair) :=
  h.append (c := .comparison attr operator value connector negate) (by
    simp [Condition.isPlain, hattr, hvalue])

lemma compareBy (h : b.Holds pair) {attr operator : String} {value : FilterValue}
    (connector : Connector) (negate : Bool) (hattr : isAttributePath attr = true)
    (hop : (FilterValue.string operator).isReadable false = true)
    (hvalue : value.isReadable false = true) :
    (b.compareBy attr operator value connector negate).Holds (namesPresence operator || pair) := by
  rw [QueryBuilder.compareBy, namesPresence]
  split
  · next op hparse =>
    have hcompare := h.compare op connector negate hattr hvalue
    simpa [hparse] using hcompare
  · next hparse =>
    have hcompare := h.compare .eq connector negate hattr hop
    simpa [hparse] using hcompare

lemma addPresence (h : b.Holds pair) {attributes : List String} (connector : Connector)
    (negate : Bool) (hattributes : attributes.all isAttributePath = true) :
    (b.addPresence attributes connector negate).Holds pair := by
  induction attributes generalizing b with
  | nil => exact h
  | cons attr attributes ih =>
      rw [List.all_cons, Bool.and_eq_true] at hattributes
      exact ih (h.append (c := .presence attr connector negate) hattributes.1) hattributes.2

lemma addGroupOf (h : b.Holds pair) {child : QueryBuilder} {more : Bool} (hchild : child.Holds more)
    (connector : Connector) (negate : Bool) :
    (b.addGroupOf child connector negate).Holds (more || pair) where
  plain := by
    rw [conditions_addGroupOf, Condition.arePlain_append, h.plain,
      Condition.arePlain_grouped hchild.plain]
    rfl
  pair := by
    rw [conditions_addGroupOf, Condition.anyMisusesPresence_append, h.pair,
      Condition.anyMisusesPresence_grouped, hchild.pair, Bool.or_comm]

lemma addBatchLine (h : b.Holds pair) {line : BatchLine} (hline : line.isPlain = true) :
    (b.addBatchLine line).Holds (line.pairs || pair) := by
  cases line with
  | value attr v =>
      rw [BatchLine.isPlain, Bool.and_eq_true] at hline
      exact h.compare .eq .both false hline.1 hline.2
  | operator attr op v =>
      rw [BatchLine.isPlain, Bool.and_eq_true, Bool.and_eq_true] at hline
      exact h.compareBy .both false hline.1.1 hline.1.2 hline.2

lemma addBatchLines (h : b.Holds pair) {lines : List BatchLine}
    (hlines : lines.all BatchLine.isPlain = true) :
    (lines.foldl QueryBuilder.addBatchLine b).Holds (lines.any BatchLine.pairs || pair) := by
  induction lines generalizing b pair with
  | nil => exact h
  | cons line lines ih =>
      rw [List.all_cons, Bool.and_eq_true] at hlines
      have hfirst := ih (h.addBatchLine hlines.1) hlines.2
      rwa [← Bool.or_assoc, Bool.or_comm (lines.any _), ← List.any_cons] at hfirst

lemma addBatch (h : b.Holds pair) {batch : Batch} (connector : Connector) (negate : Bool)
    (hbatch : batch.isPlain = true) :
    (b.addBatch batch connector negate).Holds (batch.pairs || pair) := by
  refine h.addGroupOf ?_ connector negate
  cases batch with
  | map entries =>
      refine List.foldlRecOn entries _ (motive := (Holds · false)) (new _)
        fun child hchild entry hentry => ?_
      have hplain := List.all_eq_true.mp hbatch entry hentry
      rw [Bool.and_eq_true] at hplain
      exact hchild.compare .eq connector false hplain.1 hplain.2
  | lines list =>
      have hlines := (new b.dialect).addBatchLines hbatch
      rwa [Bool.or_false] at hlines

end Holds

lemma eq_of_prepare {value v : Option FilterValue} {operator : Option String} {op : String}
    (h : prepare value operator = .ok (v, op)) :
    v = value ∧ op = operator.getD Operator.eq.keyword := by
  cases operator with
  | none =>
      cases h
      exact ⟨rfl, rfl⟩
  | some operator =>
      rw [prepare] at h
      split at h
      · cases h
      · cases h
        exact ⟨rfl, rfl⟩

/-- Only a comparison without a value is refused. -/
lemma eq_none_of_prepare {value : Option FilterValue} {operator : Option String} {e : QueryError}
    (h : prepare value operator = .error e) : value = none := by
  cases operator with
  | none => cases h
  | some operator =>
      rw [prepare] at h
      split at h
      · next hinvalid =>
        rw [invalidOperatorAndValue, Bool.and_eq_true] at hinvalid
        exact Option.isNone_iff_eq_none.mp hinvalid.1
      · cases h

end QueryBuilder

lemma BuilderCall.pairs_addWhere_none (attr : String) (operator : Option String)
    (connector : Connector) (negate : Bool) :
    (BuilderCall.addWhere attr operator none connector negate).pairs = false := by
  cases operator <;> rfl

lemma BuilderCall.pairs_addWhere_some (attr : String) (operator : Option String) (v : FilterValue)
    (connector : Connector) (negate : Bool) :
    (BuilderCall.addWhere attr operator (some v) connector negate).pairs
      = namesPresence (operator.getD Operator.eq.keyword) := by
  cases operator with
  | none => exact (show namesPresence Operator.eq.keyword = false by decide).symm
  | some operator => rfl

lemma QueryBuilder.Holds.addWhere {b : QueryBuilder} {pair : Bool} (h : b.Holds pair) {attr : String}
    {operator : Option String} {value : Option FilterValue} {connector : Connector} {negate : Bool}
    (hcall : (BuilderCall.addWhere attr operator value connector negate).isPlain = true) :
    (b.perform (.addWhere attr operator value connector negate)).2.Holds
      ((BuilderCall.addWhere attr operator value connector negate).pairs || pair) := by
  rw [BuilderCall.isPlain, Bool.and_eq_true, Bool.and_eq_true] at hcall
  obtain ⟨⟨hattr, hoperator⟩, hvalue⟩ := hcall
  have hop : (FilterValue.string (operator.getD Operator.eq.keyword)).isReadable false = true := by
    cases operator with
    | none => decide
    | some operator => exact hoperator
  rw [perform, QueryBuilder.addWhere]
  cases hprepare : prepare value operator with
  | error e =>
      rw [eq_none_of_prepare hprepare, BuilderCall.pairs_addWhere_none]
      exact h
  | ok prepared =>
      obtain ⟨v, op⟩ := prepared
      obtain ⟨rfl, rfl⟩ := eq_of_prepare hprepare
      cases v with
      | some v =>
          rw [BuilderCall.pairs_addWhere_some]
          exact h.compareBy connector negate hattr hop hvalue
      | none =>
          rw [BuilderCall.pairs_addWhere_none]
          simp only
          split
          · next hadded =>
            split at hadded
            · cases hadded
              exact h.compare .eq connector negate hattr hop
            · cases hadded
              exact h.addPresence connector true (by simp [hattr])
          · next hadded => split at hadded <;> cases hadded

/-! ## Runs -/

mutual

/-- **What a plain call leaves** of a query that is known. -/
theorem QueryBuilder.perform_holds {b : QueryBuilder} {pair : Bool} (h : b.Holds pair) :
    ∀ {call : BuilderCall}, call.isPlain = true →
      (b.perform call).2.Holds (call.pairs || !call.startsOver && pair)
  | .shorthand test attr value connector negate, hcall => by
      rw [BuilderCall.isPlain, Bool.and_eq_true] at hcall
      have hcompare := h.compare test.operator connector negate hcall.1 hcall.2
      have hop : decide (test.operator = .pr) = false := by cases test <;> rfl
      rw [hop] at hcompare
      exact hcompare
  | .addWhere _ _ _ _ _, hcall => h.addWhere hcall
  | .compareBy attr operator value connector negate, hcall => by
      rw [BuilderCall.isPlain, Bool.and_eq_true, Bool.and_eq_true] at hcall
      exact h.compareBy connector negate hcall.1.1 hcall.1.2 hcall.2
  | .addPresence _ connector negate, hcall => h.addPresence connector negate hcall
  | .addMembership attr values connector negate, hcall =>
      h.append (c := .membership attr values connector negate) hcall
  | .addRaw _ _, hcall => by simp [BuilderCall.isPlain] at hcall
  | .addGroup _ connector negate, hcall => by
      have hchild := performAll_holds (Holds.new b.dialect) hcall
      rw [Bool.and_false, Bool.or_false] at hchild
      exact h.addGroupOf hchild connector negate
  | .addGroupOf dialect _ connector negate, hcall => by
      have hchild := performAll_holds (Holds.new dialect) hcall
      rw [Bool.and_false, Bool.or_false] at hchild
      exact h.addGroupOf hchild connector negate
  | .addBatch _ connector negate, hcall => h.addBatch connector negate hcall
  | .whereWith _ _ _, hcall => by simp [BuilderCall.isPlain] at hcall
  | .select _, _ | .take _, _ | .skip _, _ => ⟨h.plain, h.pair⟩
  | .newQuery, _ => Holds.new b.dialect

theorem QueryBuilder.performAll_holds {b : QueryBuilder} {pair : Bool} (h : b.Holds pair) :
    ∀ {calls : List BuilderCall}, BuilderCall.arePlain calls = true →
      (b.performAll calls).2.Holds
        (BuilderCall.anyPairs calls || !calls.any BuilderCall.startsOver && pair)
  | [], _ => h
  | call :: calls, hcalls => by
      rw [BuilderCall.arePlain, Bool.and_eq_true] at hcalls
      have hrun := performAll_holds (perform_holds h hcalls.1) hcalls.2
      -- a pair is left by these calls, or by the first one if they do not start over
      have hcases : ∀ any dropped pairs starts pair : Bool,
          (any || !dropped && (pairs || !starts && pair))
            = ((pairs && !dropped || any) || !(starts || dropped) && pair) := by
        decide
      rw [hcases, ← List.any_cons] at hrun
      exact hrun

end

/-! ## The filter -/

namespace QueryBuilder

lemma dialect_perform (b : QueryBuilder) (call : BuilderCall) :
    (b.perform call).2.dialect = b.dialect := by
  by_cases hcall : call.addsConditions = true
  · rw [(b.perform_grows hcall).settings]
  · cases call with
    | select | take | skip | newQuery => rfl
    | _ => exact absurd rfl hcall

lemma dialect_performAll (b : QueryBuilder) (calls : List BuilderCall) :
    (b.performAll calls).2.dialect = b.dialect := by
  induction calls generalizing b with
  | nil => rfl
  | cons call calls ih => exact (ih _).trans (b.dialect_perform call)

end QueryBuilder

/-- **The filter that plain calls build is a sentence**, or there is none, exactly when no call pairs
`pr` with a value. -/
theorem isSentence_filter_iff {d : Dialect} (hd : d = .scim ∨ d = .pingDirectory)
    {calls : List BuilderCall} (hcalls : BuilderCall.arePlain calls = true) :
    let b := ((QueryBuilder.new d).performAll calls).2
    b.filter = "" ∨ IsSentence false b.filter.toList ↔ BuilderCall.anyPairs calls = false := by
  intro b
  have hpresence : d.presence = presenceClause := by
    rcases hd with rfl | rfl <;> rfl
  have hdialect : b.dialect = d := (QueryBuilder.new d).dialect_performAll calls
  have hb : b.Holds (BuilderCall.anyPairs calls) := by
    have hrun := QueryBuilder.performAll_holds (QueryBuilder.Holds.new d) hcalls
    rwa [Bool.and_false, Bool.or_false] at hrun
  rw [QueryBuilder.filter, hdialect, ← hb.pair]
  constructor
  · intro hfilter
    by_contra hpair
    rw [Bool.not_eq_false] at hpair
    have hscan := scan?_filter hpresence hb.plain hpair
    rcases hfilter with hempty | hsentence
    · rw [hempty] at hscan
      cases hscan
    · obtain ⟨p, hp, -⟩ := hsentence.scan?
      rw [hscan] at hp
      cases hp
  · intro hpair
    by_cases hnil : b.conditions = []
    · rw [hnil]
      exact Or.inl rfl
    · exact Or.inr (isSentence_filter hpresence hnil
        (Condition.areReadable_of_arePlain hb.plain hpair))

/-- A pair that is dropped again, a text that is no operator, a missing value, a group and a batch. -/
theorem isSentence_filter_iff_started_over :
    let calls : List BuilderCall :=
      [.compareBy "uid" "pr" (.string "x") .both false, .newQuery,
        .addWhere "cn" (some "Joe \"J\" Doe") none .both true, .addWhere "mail" none none .either false,
        .addGroup [.addMembership "l" [] .both true] .both false,
        .addBatch (.lines [.operator "age" "GE" (.integer 21)]) .either true]
    let b := ((QueryBuilder.new .pingDirectory).performAll calls).2
    b.filter = "" ∨ IsSentence false b.filter.toList :=
  (isSentence_filter_iff (Or.inr rfl) (by decide)).mpr (by decide)

/-- A plain call that builds the text `uid pr "x"`, which is no sentence. -/
theorem not_isSentence_uid_pr_x :
    let calls : List BuilderCall := [.compareBy "uid" "pr" (.string "x") .both false]
    let b := ((QueryBuilder.new .scim).performAll calls).2
    BuilderCall.arePlain calls = true ∧ b.filter = "uid pr \"x\""
      ∧ ¬ (b.filter = "" ∨ IsSentence false b.filter.toList) := by
  intro calls b
  have hfilter : b.filter = "uid pr \"x\"" := by decide
  refine ⟨by decide, hfilter, ?_⟩
  rw [hfilter]
  rintro (hempty | hsentence)
  · exact absurd hempty (by decide)
  · obtain ⟨p, hp, -⟩ := hsentence.scan?
    have hscan : scan? .clause "uid pr \"x\"".toList = none := by decide
    rw [hscan] at hp
    cases hp

end DirectorySearch
