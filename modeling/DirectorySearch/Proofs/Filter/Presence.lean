import DirectorySearch.Proofs.Filter.Assembly

/-!
# Dialects with a presence test of their own

A dialect says how presence is tested.  A filter tests presence in two places: as a condition, and in
the contradiction that a membership test without values is written out as.  Only the first goes by the
dialect; the second is in the standard form everywhere.

* `withTests` — conditions with their presence tests replaced by text, in the two places separately.
* `Dialect.filter_withTests` — a filter is the standard filter of the conditions with the tests of the
  dialect in the first place and the standard ones in the second.
* `Condition.allEmptyMemberships` — the attributes of the membership tests without values.
* `EqualOnlyIf` — texts of one length that differ unless something holds; it passes through glueing,
  so a test in another form is seen in the whole filter.
* **`presence_override`** — the tests of the dialect stand in both places exactly if there is no
  membership test without values.

A contradiction that is the whole filter has no parentheses around it, which is why lists of one
condition are singled out.
-/

namespace DirectorySearch

/-! ## Tests replaced by text -/

/-- A presence test as text: of an attribute, negated or not. -/
abbrev PresenceText := String → Bool → String

/-- The contradiction that a membership test without values is written out as. -/
def contradictionOf (sets : PresenceText) (attr : String) (connector : Connector) : List Condition :=
  [.raw (sets attr false) connector, .raw (sets attr true) .both]

/-- Replaced conditions, unless they are the contradiction alone. -/
def finishTests (sets : PresenceText) (conditions replaced : List Condition) : List Condition :=
  match conditions with
  | [.membership attr [] connector false] => contradictionOf sets attr connector
  | _ => replaced

mutual

/-- A condition with its presence tests replaced. -/
def Condition.replaceTests (own sets : PresenceText) : Condition → Condition
  | .presence attr connector negate => .raw (own attr negate) connector
  | .membership attr [] connector negate => .group (contradictionOf sets attr .both) connector negate
  | .group conditions connector negate =>
    .group (finishTests sets conditions (Condition.replaceAllTests own sets conditions)) connector
      negate
  | condition => condition

/-- Conditions with their presence tests replaced, each on its own. -/
def Condition.replaceAllTests (own sets : PresenceText) : List Condition → List Condition
  | [] => []
  | condition :: conditions =>
    condition.replaceTests own sets :: Condition.replaceAllTests own sets conditions

end

/-- **Conditions with their presence tests replaced by text**: those of their own by the first, those
that membership tests without values are written out as by the second. -/
def withTests (own sets : PresenceText) (conditions : List Condition) : List Condition :=
  finishTests sets conditions (Condition.replaceAllTests own sets conditions)

mutual

/-- Whether a condition is written with a presence test, at any depth. -/
def Condition.testsPresence : Condition → Bool
  | .presence _ _ _ => true
  | .membership _ [] _ _ => true
  | .group conditions _ _ => Condition.anyTestsPresence conditions
  | _ => false

/-- Whether one of some conditions is written with a presence test. -/
def Condition.anyTestsPresence : List Condition → Bool
  | [] => false
  | condition :: conditions =>
    condition.testsPresence || Condition.anyTestsPresence conditions

end

mutual

/-- The attributes of the membership tests without values in a condition, at any depth. -/
def Condition.emptyMemberships : Condition → List String
  | .membership attr [] _ _ => [attr]
  | .group conditions _ _ => Condition.allEmptyMemberships conditions
  | _ => []

/-- **The attributes of the membership tests without values** in some conditions, at any depth. -/
def Condition.allEmptyMemberships : List Condition → List String
  | [] => []
  | condition :: conditions =>
    condition.emptyMemberships ++ Condition.allEmptyMemberships conditions

end

/-! ## The text of a contradiction -/

section

variable {d : Dialect} {own sets : PresenceText}

/-- A list of conditions is the contradiction alone, or it is replaced one by one. -/
lemma finishTests_cases (sets : PresenceText) (conditions replaced : List Condition) :
    (∃ attr connector, conditions = [.membership attr [] connector false]
        ∧ finishTests sets conditions replaced = contradictionOf sets attr connector)
      ∨ ((∀ attr connector, conditions ≠ [.membership attr [] connector false])
        ∧ finishTests sets conditions replaced = replaced) := by
  unfold finishTests
  split
  · next attr connector => exact Or.inl ⟨attr, connector, rfl, rfl⟩
  · next h => exact Or.inr ⟨h, rfl⟩

lemma filter_contradictionOf (d : Dialect) (sets : PresenceText) (attr : String)
    (connector : Connector) :
    d.filter (contradictionOf sets attr connector)
      = sets attr false ++ " and " ++ sets attr true := by
  rw [contradictionOf, Dialect.filter_cons rfl, Dialect.continuation, ← String.toList_inj]
  simp [Dialect.clause, Condition.connector, Connector.keyword]

lemma filter_contradictionOf_presenceClause (d : Dialect) (attr : String) (connector : Connector)
    (negate : Bool) :
    d.filter (contradictionOf presenceClause attr connector) = membershipText attr [] negate := by
  rw [filter_contradictionOf, ← String.toList_inj]
  simp [presenceClause, wrapExpression, membershipText]

/-! ## The filter of a dialect in standard form -/

lemma isLoneMembership_replaceAllTests {conditions : List Condition}
    (h : ∀ attr connector, conditions ≠ [.membership attr [] connector false]) :
    isLoneMembership (Condition.replaceAllTests own sets conditions)
      = isLoneMembership conditions := by
  match conditions with
  | [] => rfl
  | [.membership attr [] connector false] => exact absurd rfl (h attr connector)
  | [.membership attr [] connector true] => rfl
  | [.membership attr (v :: values) connector negate] => rfl
  | [.comparison _ _ _ _ _] => rfl
  | [.presence _ _ _] => rfl
  | [.raw _ _] => rfl
  | [.group _ _ _] => rfl
  | _ :: _ :: _ => simp [Condition.replaceAllTests, isLoneMembership]

lemma connector_replaceTests (c : Condition) : (c.replaceTests own sets).connector = c.connector := by
  cases c with
  | membership attr values connector negate => cases values <;> rfl
  | _ => rfl

lemma clause_group (d : Dialect) (conditions : List Condition) (connector : Connector)
    (negate : Bool) :
    d.clause (.group conditions connector negate)
      = wrapExpression (d.filter conditions) negate true := rfl

/-- If the clauses are the same, so is the filter. -/
lemma filter_withTests_of_clauses {conditions : List Condition}
    (h : Dialect.scim.clauses (Condition.replaceAllTests d.presence presenceClause conditions)
      = d.clauses conditions) :
    Dialect.scim.filter (withTests d.presence presenceClause conditions) = d.filter conditions := by
  rcases finishTests_cases presenceClause conditions
    (Condition.replaceAllTests d.presence presenceClause conditions)
    with ⟨attr, connector, rfl, htests⟩ | ⟨hlone, htests⟩
  · rw [withTests, htests, filter_contradictionOf_presenceClause _ _ _ false, Dialect.filter,
      finishFilter_membership]
  · have hempty : (Condition.replaceAllTests d.presence presenceClause conditions).isEmpty
        = conditions.isEmpty := by
      cases conditions <;> rfl
    rw [withTests, htests, Dialect.filter, Dialect.filter, h, finishFilter, finishFilter, hempty,
      isLoneMembership_replaceAllTests hlone]

mutual

lemma clause_replaceTests (d : Dialect) : ∀ c : Condition,
    Dialect.scim.clause (c.replaceTests d.presence presenceClause) = d.clause c
  | .comparison _ _ _ _ _ => rfl
  | .presence _ _ _ => rfl
  | .membership attr [] _ negate => by
      rw [Condition.replaceTests, clause_group, filter_contradictionOf_presenceClause _ _ _ negate]
      rfl
  | .membership _ (_ :: _) _ _ => rfl
  | .raw _ _ => rfl
  | .group conditions _ negate => by
      have hfilter := filter_withTests_of_clauses (clauses_replaceAllTests d conditions)
      rw [withTests] at hfilter
      rw [Condition.replaceTests, clause_group, clause_group, hfilter]

lemma clauses_replaceAllTests (d : Dialect) : ∀ conditions : List Condition,
    Dialect.scim.clauses (Condition.replaceAllTests d.presence presenceClause conditions)
      = d.clauses conditions
  | [] => rfl
  | c :: conditions => by
      rw [Condition.replaceAllTests, Dialect.clauses, Dialect.clauses, connector_replaceTests,
        clause_replaceTests d c, clauses_replaceAllTests d conditions]

end

/-- **A filter is the standard filter of conditions with the tests of the dialect**, except that the
membership tests without values keep the standard ones. -/
theorem Dialect.filter_withTests (d : Dialect) (conditions : List Condition) :
    Dialect.scim.filter (withTests d.presence presenceClause conditions) = d.filter conditions :=
  filter_withTests_of_clauses (clauses_replaceAllTests d conditions)

/-! ## No test is left -/

lemma anyTestsPresence_finishTests {conditions replaced : List Condition}
    (h : Condition.anyTestsPresence replaced = false) :
    Condition.anyTestsPresence (finishTests sets conditions replaced) = false := by
  rcases finishTests_cases sets conditions replaced with ⟨attr, connector, -, htests⟩ | ⟨-, htests⟩
  · rw [htests]
    rfl
  · rwa [htests]

mutual

lemma testsPresence_replaceTests (own sets : PresenceText) : ∀ c : Condition,
    (c.replaceTests own sets).testsPresence = false
  | .comparison _ _ _ _ _ => rfl
  | .presence _ _ _ => rfl
  | .membership _ [] _ _ => rfl
  | .membership _ (_ :: _) _ _ => rfl
  | .raw _ _ => rfl
  | .group conditions _ _ => by
      rw [Condition.replaceTests, Condition.testsPresence]
      exact anyTestsPresence_finishTests (anyTestsPresence_replaceAllTests own sets conditions)

lemma anyTestsPresence_replaceAllTests (own sets : PresenceText) : ∀ conditions : List Condition,
    Condition.anyTestsPresence (Condition.replaceAllTests own sets conditions) = false
  | [] => rfl
  | c :: conditions => by
      rw [Condition.replaceAllTests, Condition.anyTestsPresence, testsPresence_replaceTests own sets c,
        anyTestsPresence_replaceAllTests own sets conditions, Bool.or_self]

end

/-- Conditions with their tests replaced are written with no presence test of the dialect. -/
lemma anyTestsPresence_withTests (own sets : PresenceText) (conditions : List Condition) :
    Condition.anyTestsPresence (withTests own sets conditions) = false :=
  anyTestsPresence_finishTests (anyTestsPresence_replaceAllTests own sets conditions)

end

/-! ## Contradictions in another form -/

/-- Two texts of one length that can be equal only if something holds. -/
def EqualOnlyIf (p : Prop) (s t : List Char) : Prop := s.length = t.length ∧ (s = t → p)

namespace EqualOnlyIf

variable {p q : Prop} {s t s' t' : List Char}

lemma refl (s : List Char) : EqualOnlyIf True s s := ⟨rfl, fun _ => trivial⟩

lemma append (h : EqualOnlyIf p s t) (h' : EqualOnlyIf q s' t') :
    EqualOnlyIf (p ∧ q) (s ++ s') (t ++ t') := by
  refine ⟨by rw [List.length_append, List.length_append, h.1, h'.1], fun heq => ?_⟩
  obtain ⟨hfirst, hsecond⟩ := List.append_inj heq h.1
  exact ⟨h.2 hfirst, h'.2 hsecond⟩

lemma prepend (h : EqualOnlyIf p s t) (front : List Char) :
    EqualOnlyIf p (front ++ s) (front ++ t) :=
  ⟨by simpa using h.1, fun heq => h.2 (List.append_cancel_left heq)⟩

lemma of_prepend {front : List Char} (h : EqualOnlyIf p (front ++ s) (front ++ t)) :
    EqualOnlyIf p s t :=
  ⟨by simpa using h.1, fun heq => h.2 (congrArg (front ++ ·) heq)⟩

lemma imp (h : EqualOnlyIf p s t) (hpq : p → q) : EqualOnlyIf q s t := ⟨h.1, hpq ∘ h.2⟩

lemma wrapExpression {s t : String} (h : EqualOnlyIf p s.toList t.toList) (negate wrap : Bool) :
    EqualOnlyIf p (wrapExpression s negate wrap).toList (wrapExpression t negate wrap).toList := by
  have hclosed : EqualOnlyIf p (s.toList ++ [')']) (t.toList ++ [')']) :=
    (h.append (refl _)).imp And.left
  cases negate with
  | true => simpa [DirectorySearch.wrapExpression] using hclosed.prepend ['n', 'o', 't', ' ', '(']
  | false =>
      cases wrap with
      | true => simpa [DirectorySearch.wrapExpression] using hclosed.prepend ['(']
      | false => exact h

end EqualOnlyIf

section

variable {own sets sets' : PresenceText}

/-- A filter differs from its clauses with their connectors in the first connector only. -/
lemma connectedText_replaceAllTests {c : Condition} {conditions : List Condition}
    (hlone : isLoneMembership (c :: conditions) = false) :
    connectedText (Dialect.scim.clauses (Condition.replaceAllTests own sets (c :: conditions)))
      = (' ' :: (c.connector.keyword.toList ++ [' ']))
        ++ (Dialect.scim.filter (withTests own sets (c :: conditions))).toList := by
  rcases finishTests_cases sets (c :: conditions) (Condition.replaceAllTests own sets (c :: conditions))
    with ⟨attr, connector, hcontradiction, -⟩ | ⟨hne, htests⟩
  · rw [hcontradiction] at hlone
    cases hlone
  · have hreplaced :
        isLoneMembership (Condition.replaceAllTests own sets (c :: conditions)) = false := by
      rw [isLoneMembership_replaceAllTests hne, hlone]
    rw [Condition.replaceAllTests] at htests hreplaced ⊢
    rw [withTests, Condition.replaceAllTests, htests, Dialect.filter_cons hreplaced, Dialect.clauses,
      connectedText_cons, connector_replaceTests, String.toList_append, Dialect.toList_continuation]
    simp

lemma equalOnlyIf_contradictionOf
    (hsets : ∀ attr negate, EqualOnlyIf False (sets attr negate).toList (sets' attr negate).toList)
    (attr : String) (connector : Connector) :
    EqualOnlyIf False (Dialect.scim.filter (contradictionOf sets attr connector)).toList
      (Dialect.scim.filter (contradictionOf sets' attr connector)).toList := by
  rw [filter_contradictionOf, filter_contradictionOf]
  simp only [String.toList_append]
  exact (((hsets attr false).append (.refl _)).append (hsets attr true)).imp And.right

lemma equalOnlyIf_filter_withTests
    (hsets : ∀ attr negate, EqualOnlyIf False (sets attr negate).toList (sets' attr negate).toList)
    {conditions : List Condition}
    (h : EqualOnlyIf (Condition.allEmptyMemberships conditions = [])
      (connectedText (Dialect.scim.clauses (Condition.replaceAllTests own sets conditions)))
      (connectedText (Dialect.scim.clauses (Condition.replaceAllTests own sets' conditions)))) :
    EqualOnlyIf (Condition.allEmptyMemberships conditions = [])
      (Dialect.scim.filter (withTests own sets conditions)).toList
      (Dialect.scim.filter (withTests own sets' conditions)).toList := by
  by_cases hlone : isLoneMembership conditions = true
  · obtain ⟨attr, values, connector, rfl⟩ := eq_of_isLoneMembership hlone
    cases values with
    | nil => exact (equalOnlyIf_contradictionOf hsets attr connector).imp False.elim
    | cons v values => exact (EqualOnlyIf.refl _).imp fun _ => rfl
  · cases conditions with
    | nil => exact (EqualOnlyIf.refl _).imp fun _ => rfl
    | cons c conditions =>
        rw [connectedText_replaceAllTests (by simpa using hlone),
          connectedText_replaceAllTests (by simpa using hlone)] at h
        exact h.of_prepend

mutual

/-- Contradictions that differ show in the clause that holds them, at any depth. -/
lemma equalOnlyIf_clause
    (hsets : ∀ attr negate, EqualOnlyIf False (sets attr negate).toList (sets' attr negate).toList) :
    ∀ c : Condition, EqualOnlyIf (c.emptyMemberships = [])
      (Dialect.scim.clause (c.replaceTests own sets)).toList
      (Dialect.scim.clause (c.replaceTests own sets')).toList
  | .comparison _ _ _ _ _ => (EqualOnlyIf.refl _).imp fun _ => rfl
  | .presence _ _ _ => (EqualOnlyIf.refl _).imp fun _ => rfl
  | .membership attr [] _ negate => by
      rw [Condition.replaceTests, Condition.replaceTests, clause_group, clause_group]
      exact ((equalOnlyIf_contradictionOf hsets attr .both).imp False.elim).wrapExpression negate true
  | .membership _ (_ :: _) _ _ => (EqualOnlyIf.refl _).imp fun _ => rfl
  | .raw _ _ => (EqualOnlyIf.refl _).imp fun _ => rfl
  | .group conditions _ negate => by
      have hclauses := equalOnlyIf_connectedText hsets conditions
      rw [Condition.replaceTests, Condition.replaceTests, clause_group, clause_group]
      exact (equalOnlyIf_filter_withTests hsets hclauses).wrapExpression negate true

lemma equalOnlyIf_connectedText
    (hsets : ∀ attr negate, EqualOnlyIf False (sets attr negate).toList (sets' attr negate).toList) :
    ∀ conditions : List Condition, EqualOnlyIf (Condition.allEmptyMemberships conditions = [])
      (connectedText (Dialect.scim.clauses (Condition.replaceAllTests own sets conditions)))
      (connectedText (Dialect.scim.clauses (Condition.replaceAllTests own sets' conditions)))
  | [] => (EqualOnlyIf.refl _).imp fun _ => rfl
  | c :: conditions => by
      have hclauses := (equalOnlyIf_clause hsets c).append
        (equalOnlyIf_connectedText hsets conditions)
      simp only [Condition.replaceAllTests, Dialect.clauses, connectedText_cons, connector_replaceTests,
        Condition.allEmptyMemberships, List.append_eq_nil_iff]
      exact ((hclauses.prepend [' ']).prepend c.connector.keyword.toList).prepend [' ']

end

end

/-! ## Conditions without a contradiction -/

section

variable {own sets sets' : PresenceText}

lemma finishTests_eq {conditions : List Condition}
    (h : Condition.allEmptyMemberships conditions = []) (replaced : List Condition) :
    finishTests sets conditions replaced = replaced := by
  rcases finishTests_cases sets conditions replaced with ⟨attr, connector, rfl, -⟩ | ⟨-, htests⟩
  · cases h
  · exact htests

mutual

lemma replaceTests_eq : ∀ c : Condition, c.emptyMemberships = [] →
    c.replaceTests own sets = c.replaceTests own sets'
  | .comparison _ _ _ _ _, _ => rfl
  | .presence _ _ _, _ => rfl
  | .membership _ [] _ _, h => by cases h
  | .membership _ (_ :: _) _ _, _ => rfl
  | .raw _ _, _ => rfl
  | .group conditions _ _, h => by
      rw [Condition.replaceTests, Condition.replaceTests, finishTests_eq h, finishTests_eq h,
        replaceAllTests_eq conditions h]

lemma replaceAllTests_eq : ∀ conditions : List Condition,
    Condition.allEmptyMemberships conditions = [] →
      Condition.replaceAllTests own sets conditions = Condition.replaceAllTests own sets' conditions
  | [], _ => rfl
  | c :: conditions, h => by
      obtain ⟨hfirst, hothers⟩ := List.append_eq_nil_iff.mp h
      rw [Condition.replaceAllTests, Condition.replaceAllTests, replaceTests_eq c hfirst,
        replaceAllTests_eq conditions hothers]

end

/-- Without contradictions it does not matter how they would be written. -/
lemma withTests_eq {conditions : List Condition} (h : Condition.allEmptyMemberships conditions = []) :
    withTests own sets conditions = withTests own sets' conditions := by
  rw [withTests, withTests, finishTests_eq h, finishTests_eq h, replaceAllTests_eq conditions h]

end

/-! ## A test in capitals -/

/-- The dialect whose presence test is written in capitals. -/
def Dialect.inCapitals : Dialect :=
  { presence := fun attr negate => wrapExpression (attr ++ " PR") negate false }

lemma equalOnlyIf_inCapitals (attr : String) (negate : Bool) :
    EqualOnlyIf False (presenceClause attr negate).toList
      (Dialect.inCapitals.presence attr negate).toList := by
  have htest : EqualOnlyIf False (attr ++ " pr").toList (attr ++ " PR").toList := by
    have hend : EqualOnlyIf False [' ', 'p', 'r'] [' ', 'P', 'R'] := ⟨rfl, by decide⟩
    simpa using hend.prepend attr.toList
  exact htest.wrapExpression negate false

lemma allEmptyMemberships_eq_nil_of_inCapitals {conditions : List Condition}
    (h : Dialect.inCapitals.filter conditions = Dialect.scim.filter
      (withTests Dialect.inCapitals.presence Dialect.inCapitals.presence conditions)) :
    Condition.allEmptyMemberships conditions = [] := by
  rw [← Dialect.filter_withTests, ← String.toList_inj] at h
  exact (equalOnlyIf_filter_withTests equalOnlyIf_inCapitals
    (equalOnlyIf_connectedText equalOnlyIf_inCapitals conditions)).2 h

/-! ## Where the tests of a dialect stand -/

/-- **How conditions are written in a dialect with a presence test of its own.** -/
structure PresenceOverride (conditions : List Condition) : Prop where
  /-- The conditions that test presence are written as the dialect says, at any depth, and the
  membership tests without values in the standard form. -/
  filter_eq : ∀ d : Dialect,
    d.filter conditions = Dialect.scim.filter (withTests d.presence presenceClause conditions)
  /-- There is no other presence test. -/
  none_left : ∀ own sets : PresenceText,
    Condition.anyTestsPresence (withTests own sets conditions) = false
  /-- The tests of every dialect stand everywhere exactly if no membership test is without values. -/
  everywhere_iff : (∀ d : Dialect,
      d.filter conditions = Dialect.scim.filter (withTests d.presence d.presence conditions))
    ↔ Condition.allEmptyMemberships conditions = []
  /-- So do those in capitals. -/
  inCapitals_iff : Dialect.inCapitals.filter conditions
      = Dialect.scim.filter
          (withTests Dialect.inCapitals.presence Dialect.inCapitals.presence conditions)
    ↔ Condition.allEmptyMemberships conditions = []

theorem presence_override (conditions : List Condition) : PresenceOverride conditions := by
  have heverywhere (h : Condition.allEmptyMemberships conditions = []) (d : Dialect) :
      d.filter conditions = Dialect.scim.filter (withTests d.presence d.presence conditions) := by
    rw [← d.filter_withTests, withTests_eq h]
  exact {
    filter_eq := fun d => (d.filter_withTests conditions).symm
    none_left := fun own sets => anyTestsPresence_withTests own sets conditions
    everywhere_iff := ⟨fun h => allEmptyMemberships_eq_nil_of_inCapitals (h _), heverywhere⟩
    inCapitals_iff :=
      ⟨allEmptyMemberships_eq_nil_of_inCapitals, fun h => heverywhere h Dialect.inCapitals⟩ }

/-- **A membership test without values is not in capitals.** -/
theorem inCapitals_misses_empty_membership :
    let conditions : List Condition := [.membership "uid" [] .both false]
    Dialect.inCapitals.filter conditions = "uid pr and not (uid pr)"
      ∧ Dialect.inCapitals.filter conditions
        ≠ Dialect.scim.filter
            (withTests Dialect.inCapitals.presence Dialect.inCapitals.presence conditions) := by
  decide

end DirectorySearch
