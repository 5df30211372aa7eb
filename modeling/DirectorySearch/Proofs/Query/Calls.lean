import DirectorySearch.Query.Call
import Mathlib.Data.List.Basic
import Mathlib.Tactic.Common

/-!
# What calls do to a query under construction

Conditions are only ever added, and what goes on in the query of a group stays there but for its
conditions.  This file says so for every call, and what follows for every list of calls.

* `QueryBuilder.Grows` — a query with conditions added at the end and nothing else changed.  Every
  call that adds something makes a query grow (`perform_grows`).
* `BuilderCall.child?` — the query of the group that a call adds, when the calls on it are made.
* `Condition.isFull` — no group is empty, at any depth.  `perform_full` is the step and
  `performAll_full` the list of calls that keep it so.
* **`builder_calls`** — the laws of a call, after any calls before it.

An empty group that a constructor makes is dropped like any other; only those that it hides inside a
group would stay.
-/

namespace DirectorySearch

/-! ## Queries that grow -/

namespace QueryBuilder

/-- **A query grows**: conditions are added at the end, and nothing else changes. -/
def Grows (b b' : QueryBuilder) : Prop :=
  ∃ added, b' = { b with conditions := b.conditions ++ added }

namespace Grows

variable {b b₁ b₂ : QueryBuilder}

lemma refl (b : QueryBuilder) : b.Grows b := ⟨[], by rw [List.append_nil]⟩

lemma trans (h₁ : b.Grows b₁) (h₂ : b₁.Grows b₂) : b.Grows b₂ := by
  obtain ⟨added, rfl⟩ := h₁
  obtain ⟨more, rfl⟩ := h₂
  exact ⟨added ++ more, by rw [List.append_assoc]⟩

lemma conditions (h : b.Grows b₁) : b.conditions <+: b₁.conditions := by
  obtain ⟨added, rfl⟩ := h
  exact List.prefix_append _ _

/-- All but the conditions is as it was. -/
lemma settings (h : b.Grows b₁) : b₁ = { b with conditions := b₁.conditions } := by
  obtain ⟨added, rfl⟩ := h
  rfl

lemma push (b : QueryBuilder) (c : Condition) : b.Grows (b.push c) := by
  rw [QueryBuilder.push]
  split
  · exact refl b
  · exact ⟨[c], rfl⟩

lemma compareBy (b : QueryBuilder) (attr operator : String) (value : FilterValue)
    (connector : Connector) (negate : Bool) :
    b.Grows (b.compareBy attr operator value connector negate) := by
  rw [QueryBuilder.compareBy]
  split <;> exact push b _

lemma addPresence (b : QueryBuilder) (attributes : List String) (connector : Connector)
    (negate : Bool) : b.Grows (b.addPresence attributes connector negate) := by
  induction attributes generalizing b with
  | nil => exact refl b
  | cons attr attributes ih => exact (push b _).trans (ih _)

lemma addWhere {attr : String} {operator : Option String} {value : Option FilterValue}
    {connector : Connector} {negate : Bool}
    (h : b.addWhere attr operator value connector negate = .ok b₁) : b.Grows b₁ := by
  rw [QueryBuilder.addWhere] at h
  split at h
  · cases h
  · cases h
    exact compareBy b attr _ _ connector negate
  · split at h
    · cases h
      exact push b _
    · cases h
      exact addPresence b [attr] connector true

end Grows

end QueryBuilder

/-- Whether a call adds conditions, if it does anything. -/
def BuilderCall.addsConditions : BuilderCall → Bool
  | .select _ | .take _ | .skip _ | .newQuery => false
  | _ => true

/-- Whether a call says which attributes and entries are wanted. -/
def BuilderCall.adjusts : BuilderCall → Bool
  | .select _ | .take _ | .skip _ => true
  | _ => false

/-- **A call that adds conditions** makes the query grow. -/
theorem QueryBuilder.perform_grows (b : QueryBuilder) {call : BuilderCall}
    (hcall : call.addsConditions = true) : b.Grows (b.perform call).2 := by
  cases call with
  | shorthand test attr value connector negate =>
      exact .push b (.comparison attr test.operator value connector negate)
  | addWhere attr operator value connector negate =>
      rw [perform]
      split
      · next h => exact .addWhere h
      · exact .refl b
  | compareBy attr operator value connector negate =>
      exact .compareBy b attr operator value connector negate
  | addPresence attributes connector negate => exact .addPresence b attributes connector negate
  | addMembership attr values connector negate =>
      exact .push b (.membership attr values connector negate)
  | addRaw expression connector => exact .push b (.raw expression connector)
  | addGroup calls connector negate =>
      exact .push b (.group (b.newQuery.performAll calls).2.conditions connector negate)
  | addGroupOf dialect calls connector negate =>
      exact .push b (.group ((new dialect).performAll calls).2.conditions connector negate)
  | addBatch batch connector negate => exact .push b (.group _ connector negate)
  | whereWith attr value build => exact .push b (build attr value)
  | select | take | skip | newQuery => simp [BuilderCall.addsConditions] at hcall

/-! ## Groups -/

/-- What a query is given of the conditions of a group: the group, unless there are none. -/
def Condition.grouped (conditions : List Condition) (connector : Connector) (negate : Bool) :
    List Condition :=
  if conditions.isEmpty then [] else [.group conditions connector negate]

lemma QueryBuilder.conditions_addGroupOf (b child : QueryBuilder) (connector : Connector)
    (negate : Bool) :
    (b.addGroupOf child connector negate).conditions
      = b.conditions ++ Condition.grouped child.conditions connector negate := by
  rw [addGroupOf, push, Condition.grouped]
  cases child.conditions with
  | nil => simp [Condition.isEmptyGroup]
  | cons c conditions => simp [Condition.isEmptyGroup]

def BatchLine.call : BatchLine → BuilderCall
  | .value attr v => .shorthand .equals attr v .both false
  | .operator attr op v => .compareBy attr op v .both false

/-- The calls that a batch makes on the query of its group. -/
def Batch.calls : Batch → Connector → List BuilderCall
  | .map entries, connector =>
    entries.map fun entry => .shorthand .equals entry.1 entry.2 connector false
  | .lines list, _ => list.map BatchLine.call

/-- **A batch is a group** of one comparison for each of its lines. -/
lemma QueryBuilder.addBatch_eq (b : QueryBuilder) (batch : Batch) (connector : Connector)
    (negate : Bool) :
    b.addBatch batch connector negate
      = b.addGroupOf (b.newQuery.performAll (batch.calls connector)).2 connector negate := by
  cases batch with
  | map entries =>
      have hentries : ∀ child : QueryBuilder,
          entries.foldl (fun b entry => b.compare entry.1 .eq entry.2 connector false) child
            = (child.performAll ((Batch.map entries).calls connector)).2 := by
        induction entries with
        | nil => intro child; rfl
        | cons entry entries ih => intro child; exact ih _
      exact congrArg (b.addGroupOf · connector negate) (hentries _)
  | lines lines =>
      have hlines : ∀ child : QueryBuilder,
          lines.foldl addBatchLine child
            = (child.performAll ((Batch.lines lines).calls connector)).2 := by
        induction lines with
        | nil => intro child; rfl
        | cons line lines ih =>
            intro child
            cases line <;> exact ih _
      exact congrArg (b.addGroupOf · connector negate) (hlines _)

/-- The query of the group that a call adds, when the calls on it are made, and how the group is
joined. -/
def BuilderCall.child? (b : QueryBuilder) : BuilderCall → Option (QueryBuilder × Connector × Bool)
  | .addGroup calls connector negate => some ((b.newQuery.performAll calls).2, connector, negate)
  | .addGroupOf dialect calls connector negate =>
    some (((QueryBuilder.new dialect).performAll calls).2, connector, negate)
  | .addBatch batch connector negate =>
    some ((b.newQuery.performAll (batch.calls connector)).2, connector, negate)
  | _ => none

lemma QueryBuilder.perform_of_child {b child : QueryBuilder} {call : BuilderCall}
    {connector : Connector} {negate : Bool} (h : call.child? b = some (child, connector, negate)) :
    (b.perform call).2 = b.addGroupOf child connector negate := by
  cases call with
  | addGroup =>
      cases h
      rfl
  | addGroupOf =>
      cases h
      rfl
  | addBatch batch =>
      cases h
      exact b.addBatch_eq batch connector negate
  | _ => simp [BuilderCall.child?] at h

/-! ## No group is empty -/

mutual

/-- Whether no group of a condition is empty, at any depth. -/
def Condition.isFull : Condition → Bool
  | .group conditions _ _ => !conditions.isEmpty && Condition.areFull conditions
  | _ => true

def Condition.areFull : List Condition → Bool
  | [] => true
  | condition :: conditions => condition.isFull && Condition.areFull conditions

end

/-- Whether no group strictly inside a condition is empty. -/
def Condition.isFullInside : Condition → Bool
  | .group conditions _ _ => Condition.areFull conditions
  | _ => true

lemma Condition.isFull_eq (c : Condition) : c.isFull = (!c.isEmptyGroup && c.isFullInside) := by
  cases c with
  | group conditions connector negate => cases conditions <;> rfl
  | _ => rfl

lemma Condition.areFull_append (conditions more : List Condition) :
    Condition.areFull (conditions ++ more)
      = (Condition.areFull conditions && Condition.areFull more) := by
  induction conditions with
  | nil => rfl
  | cons c conditions ih => rw [List.cons_append, areFull, ih, areFull, Bool.and_assoc]

lemma Condition.areFull_grouped {conditions : List Condition}
    (h : Condition.areFull conditions = true) (connector : Connector) (negate : Bool) :
    Condition.areFull (Condition.grouped conditions connector negate) = true := by
  rw [grouped]
  split
  · rfl
  · next hne => simp [areFull, isFull, hne, h]

mutual

/-- Whether the constructors in a call hide no empty group inside a group. -/
def BuilderCall.buildsFull : BuilderCall → Bool
  | .whereWith attr value build => (build attr value).isFullInside
  | .addGroup calls _ _ | .addGroupOf _ calls _ _ => BuilderCall.allBuildFull calls
  | _ => true

def BuilderCall.allBuildFull : List BuilderCall → Bool
  | [] => true
  | call :: calls => call.buildsFull && BuilderCall.allBuildFull calls

end

namespace QueryBuilder

/-- No group in a query is empty. -/
def Full (b : QueryBuilder) : Prop := Condition.areFull b.conditions = true

namespace Full

variable {b b₁ : QueryBuilder}

lemma push {c : Condition} (h : b.Full) (hc : c.isFullInside = true) : (b.push c).Full := by
  rw [QueryBuilder.push]
  split
  · exact h
  · next hempty =>
    have hfull : c.isFull = true := by simp [Condition.isFull_eq, hempty, hc]
    rw [Full, Condition.areFull_append, show Condition.areFull b.conditions = true from h]
    simp [Condition.areFull, hfull]

lemma compareBy (h : b.Full) (attr operator : String) (value : FilterValue) (connector : Connector)
    (negate : Bool) : (b.compareBy attr operator value connector negate).Full := by
  rw [QueryBuilder.compareBy]
  split <;> exact h.push rfl

lemma addPresence (h : b.Full) (attributes : List String) (connector : Connector) (negate : Bool) :
    (b.addPresence attributes connector negate).Full := by
  induction attributes generalizing b with
  | nil => exact h
  | cons attr attributes ih => exact ih (h.push rfl)

lemma addWhere {attr : String} {operator : Option String} {value : Option FilterValue}
    {connector : Connector} {negate : Bool} (hb : b.Full)
    (h : b.addWhere attr operator value connector negate = .ok b₁) : b₁.Full := by
  rw [QueryBuilder.addWhere] at h
  split at h
  · cases h
  · cases h
    exact hb.compareBy attr _ _ connector negate
  · split at h
    · cases h
      exact hb.push rfl
    · cases h
      exact hb.addPresence [attr] connector true

lemma addGroupOf {child : QueryBuilder} (h : b.Full) (hchild : child.Full) (connector : Connector)
    (negate : Bool) : (b.addGroupOf child connector negate).Full := by
  rw [Full, conditions_addGroupOf, Condition.areFull_append,
    show Condition.areFull b.conditions = true from h, Condition.areFull_grouped hchild]
  rfl

lemma addBatch (h : b.Full) (batch : Batch) (connector : Connector) (negate : Bool) :
    (b.addBatch batch connector negate).Full := by
  refine h.addGroupOf ?_ connector negate
  cases batch with
  | map entries =>
      exact List.foldlRecOn entries _ (motive := Full) rfl fun _ hchild _ _ => hchild.push rfl
  | lines lines =>
      refine List.foldlRecOn lines _ (motive := Full) rfl fun _ hchild line _ => ?_
      cases line with
      | value attr value => exact hchild.push rfl
      | operator attr operator value => exact hchild.compareBy attr operator value .both false

end Full

end QueryBuilder

mutual

/-- **A call whose constructors hide no empty group** leaves none. -/
theorem QueryBuilder.perform_full {b : QueryBuilder} (h : b.Full) :
    ∀ {call : BuilderCall}, call.buildsFull = true → (b.perform call).2.Full
  | .addWhere attr operator value connector negate, _ => by
      rw [perform]
      split
      · next hadded => exact h.addWhere hadded
      · exact h
  | .compareBy attr operator value connector negate, _ =>
      h.compareBy attr operator value connector negate
  | .addPresence attributes connector negate, _ => h.addPresence attributes connector negate
  | .addGroup _ connector negate, hcalls =>
      h.addGroupOf (performAll_full (show b.newQuery.Full from rfl) hcalls) connector negate
  | .addGroupOf dialect _ connector negate, hcalls =>
      h.addGroupOf (performAll_full (show (new dialect).Full from rfl) hcalls) connector negate
  | .addBatch batch connector negate, _ => h.addBatch batch connector negate
  | .whereWith _ _ _, hbuild => h.push hbuild
  | .shorthand _ _ _ _ _, _ | .addMembership _ _ _ _, _ | .addRaw _ _, _ => h.push rfl
  | .select _, _ | .take _, _ | .skip _, _ => h
  | .newQuery, _ => rfl

theorem QueryBuilder.performAll_full {b : QueryBuilder} (h : b.Full) :
    ∀ {calls : List BuilderCall}, BuilderCall.allBuildFull calls = true →
      (b.performAll calls).2.Full
  | [], _ => h
  | call :: calls, hcalls => by
      rw [BuilderCall.allBuildFull, Bool.and_eq_true] at hcalls
      exact performAll_full (perform_full h hcalls.1) hcalls.2

end

/-! ## The laws of a call -/

/-- What may be relied on when a call is made on a query. -/
structure BuilderCall.Lawful (call : BuilderCall) (b : QueryBuilder) : Prop where
  /-- No condition is lost, changed or moved. -/
  kept : call ≠ .newQuery → b.conditions <+: (b.perform call).2.conditions
  /-- A comparison that is refused leaves no trace. -/
  refused : ∀ attr operator value connector negate,
    call = .addWhere attr operator value connector negate →
      (b.perform call).1 ≠ [] → (b.perform call).2 = b
  /-- What adds conditions changes nothing else. -/
  settings : call.addsConditions = true →
    (b.perform call).2 = { b with conditions := (b.perform call).2.conditions }
  /-- What changes the settings leaves the conditions alone. -/
  conditions : call.adjusts = true → (b.perform call).2.conditions = b.conditions
  /-- The query of a group leaves its conditions behind, as one group, and nothing else. -/
  group : ∀ child connector negate, call.child? b = some (child, connector, negate) →
    (b.perform call).2.conditions
      = b.conditions ++ Condition.grouped child.conditions connector negate

/-- Every call but one adds conditions or changes the settings. -/
lemma BuilderCall.addsConditions_or_adjusts {call : BuilderCall} (h : call ≠ .newQuery) :
    call.addsConditions = true ∨ call.adjusts = true := by
  cases call with
  | newQuery => exact absurd rfl h
  | select | take | skip => exact Or.inr rfl
  | _ => exact Or.inl rfl

lemma QueryBuilder.conditions_of_adjusts (b : QueryBuilder) {call : BuilderCall}
    (h : call.adjusts = true) : (b.perform call).2.conditions = b.conditions := by
  cases call with
  | select | take | skip => rfl
  | _ => simp [BuilderCall.adjusts] at h

lemma BuilderCall.lawful (call : BuilderCall) (b : QueryBuilder) : call.Lawful b where
  kept h := by
    rcases addsConditions_or_adjusts h with h | h
    · exact (b.perform_grows h).conditions
    · exact (b.conditions_of_adjusts h).symm ▸ List.prefix_rfl
  refused attr operator value connector negate hcall herrors := by
    rw [hcall, QueryBuilder.perform] at herrors ⊢
    split at herrors
    · exact absurd rfl herrors
    · rfl
  settings h := (b.perform_grows h).settings
  conditions h := b.conditions_of_adjusts h
  group child connector negate h := by
    rw [QueryBuilder.perform_of_child h, QueryBuilder.conditions_addGroupOf]

/-- What may be relied on when calls are made on a new query. -/
structure QueryBuilder.WellBuilt (d : Dialect) (calls : List BuilderCall) : Prop where
  /-- Each call keeps its laws on the query that the calls before it leave. -/
  each : ∀ before call after, calls = before ++ call :: after →
    call.Lawful ((new d).performAll before).2
  /-- No group is empty, unless a constructor hides an empty one inside a group. -/
  full : BuilderCall.allBuildFull calls = true → ((new d).performAll calls).2.Full

/-- **Whatever calls are made on a new query**, its conditions are only added to, the queries of its
groups stay apart from it, and no group in it is empty. -/
theorem builder_calls (d : Dialect) (calls : List BuilderCall) :
    QueryBuilder.WellBuilt d calls where
  each _ call _ _ := call.lawful _
  full := QueryBuilder.performAll_full (show (QueryBuilder.new d).Full from rfl)

-- a group whose query starts over, is refused a comparison and takes what it likes is not added
example (d : Dialect) :
    (QueryBuilder.new d).perform (.addGroup [.addPresence ["uid"] .both false, .newQuery,
        .addWhere "cn" (some "gt") none .both false, .take 5] .either true)
      = ([.illegalOperatorAndValue], QueryBuilder.new d) := rfl

-- a constructor can hide an empty group where it is not looked for
example (d : Dialect) :
    ¬ ((QueryBuilder.new d).perform (.whereWith "uid" (.bool true)
        fun _ _ => .group [.group [] .both false] .both false)).2.Full := by
  simp [QueryBuilder.perform, QueryBuilder.whereWith, QueryBuilder.push, QueryBuilder.new,
    QueryBuilder.Full, Condition.isEmptyGroup, Condition.areFull, Condition.isFull]

end DirectorySearch
