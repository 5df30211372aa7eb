import DirectorySearch.Proofs.Filter.RoundTrip

/-!
# Filters that are not read

Conditions without raw text, with attribute paths and readable values, can still make a text that is no
filter: a value may stand behind `pr`, and a group may have no conditions.  A reader gets as far as the
first of these and no further.

* `Blocks` — a rest in front of which a filter neither ends nor goes on.
* `Halted`, `Halts` — reading has failed, or has stopped in front of such a rest.
* `readFactor?_wrap_eq_none` — a filter in parentheses on which reading halts is not read at all.
* `readChain?_both_cases`, `readJoined?_halted` — if each clause is read or halts, and one of them is
  not read, then reading the filter halts there.
* `Condition.isClean` — conditions without raw text that have attribute paths and readable values.
* **`readExpression?_filter_clean`** — their filter is read as what they denote, or not at all.
-/

namespace DirectorySearch

/-! ## Reading that halts -/

/-- A rest in front of which a filter neither ends nor goes on. -/
structure Blocks (rest : List Char) : Prop where
  ne_nil : rest ≠ []
  closing : cutWord? [')'] rest = none
  connective : ∀ c, cutConnective? c rest = none

/-- Nothing was read, or something in front of a rest that blocks. -/
def Halted (result : Option (FilterExpr × List Char)) : Prop := ∀ r ∈ result, Blocks r.2

/-- Reading halts on a text, whatever follows it. -/
def Halts (read : TextReader FilterExpr) (text : List Char) : Prop :=
  ∀ rest, EndsWord rest → Halted (read (text ++ rest))

/-- Reading halts on the text of a filter, whatever follows that. -/
def HaltsFilter (inner : TextReader FilterExpr) (text : List Char) : Prop :=
  ∀ rest, EndsFilter rest → Halted (inner (text ++ rest))

lemma halted_none : Halted none := fun _ h => by cases h

lemma Halted.map {result : Option (FilterExpr × List Char)} (h : Halted result)
    (f : FilterExpr → FilterExpr) : Halted (result.map fun r => (f r.1, r.2)) := by
  intro r hr
  obtain ⟨r', hr', rfl⟩ := Option.mem_map.mp hr
  exact h r' hr'

/-- Text that is read up to the end of a word is not text on which reading halts. -/
lemma ReadAs.not_halts {read : TextReader FilterExpr} {text : List Char} {e : FilterExpr}
    (h : ReadAs read text e) : ¬ Halts read text := fun hhalts => by
  have hend : EndsWord [] := endsFilter_nil.endsWord
  exact (hhalts [] hend (e, []) (h [] hend)).ne_nil rfl

/-! ## Factors -/

/-- A filter on which reading halts is not closed. -/
lemma readClosed?_eq_none {inner : TextReader FilterExpr} {text : List Char}
    (h : HaltsFilter inner text) (rest : List Char) :
    readClosed? inner (text ++ ')' :: rest) = none := by
  have hhalted := h _ (endsFilter_closed rest)
  cases hread : inner (text ++ ')' :: rest) with
  | none => simp [readClosed?, hread]
  | some r => simp [readClosed?, hread, (hhalted r hread).closing]

/-- What is not closed is not read in parentheses, negated or not. -/
lemma readFactor?_wrap_eq_none {lax : Bool} {inner : TextReader FilterExpr} {text : String}
    {negate wrap : Bool} (hwrap : (negate || wrap) = true)
    (h : ∀ rest, readClosed? inner (text.toList ++ ')' :: rest) = none) (rest : List Char) :
    readFactor? lax inner ((wrapExpression text negate wrap).toList ++ rest) = none := by
  cases negate with
  | true =>
      have htext : (wrapExpression text true wrap).toList ++ rest
          = ['n', 'o', 't', ' ', '('] ++ (text.toList ++ ')' :: rest) := by
        simp [wrapExpression]
      rw [htext, readFactor?, cutWord?_append]
      simp [h]
  | false =>
      have htext : (wrapExpression text false wrap).toList ++ rest
          = ['('] ++ (text.toList ++ ')' :: rest) := by
        simp_all [wrapExpression]
      rw [htext, readFactor?, cutWord?_append, List.singleton_append, cutWord?_eq_none (by simp)]
      simp [h]

/-! ## Chains -/

section Chains

variable {item : TextReader FilterExpr} {rest : List Char}

/-- A chain goes no further than its first item. -/
lemma Halted.readChain? {text : List Char} (h : Halted (item text)) (c : Connector)
    (join : FilterExpr → FilterExpr → FilterExpr) (bound : Nat) :
    Halted (DirectorySearch.readChain? c join item bound text) := by
  cases bound with
  | zero => exact halted_none
  | succ bound =>
      rw [DirectorySearch.readChain?]
      cases hread : item text with
      | none => exact halted_none
      | some r =>
          have hblocks := h r hread
          dsimp only
          rw [hblocks.connective c]
          rintro _ ⟨⟩
          exact hblocks

lemma endsWord_connectedText (hrest : EndsFilter rest) (clauses : List (Connector × String)) :
    EndsWord (connectedText clauses ++ rest) := by
  cases clauses with
  | nil => exact hrest.endsWord
  | cons clause clauses =>
      obtain ⟨c, t⟩ := clause
      rw [connectedText_cons]
      exact endsWord_space _

/-- A clause is read as its expression, or reading halts on it. -/
def ReadClause.Settled (item : TextReader FilterExpr) (c : ReadClause) : Prop :=
  ReadAs item c.text.toList c.expr ∨ Halts item c.text.toList

/-- Reading a chain halts on its first clause, or goes on behind it. -/
lemma ReadClause.Settled.readChain? {c : ReadClause} (h : c.Settled item) {tail : List Char}
    (htail : EndsWord tail) (d : Connector) (join : FilterExpr → FilterExpr → FilterExpr)
    (bound : Nat) :
    Halted (DirectorySearch.readChain? d join item bound (c.text.toList ++ tail))
      ∨ ReadAs item c.text.toList c.expr ∧ ∃ b,
          DirectorySearch.readChain? d join item bound (c.text.toList ++ tail)
            = match cutConnective? d tail with
              | none => some (c.expr, tail)
              | some text =>
                (DirectorySearch.readChain? d join item b text).map fun r => (join c.expr r.1, r.2) := by
  rcases h with hread | hhalts
  · cases bound with
    | zero => exact Or.inl halted_none
    | succ bound =>
        refine Or.inr ⟨hread, bound, ?_⟩
        cases hcut : cutConnective? d tail <;>
          simp only [DirectorySearch.readChain?, hread tail htail, hcut]
  · exact Or.inl ((hhalts tail htail).readChain? d join bound)

/-- Reading a run halts, or all its clauses are read and it ends in front of an `or`. -/
lemma readChain?_both_cases (hrest : EndsFilter rest) (c : ReadClause) (clauses : List ReadClause)
    (bound : Nat) (hclauses : ∀ d ∈ c :: clauses, d.Settled item) :
    Halted (readChain? .both .both item bound
        (c.text.toList ++ (connectedText (clauses.map ReadClause.written) ++ rest)))
      ∨ (∀ d ∈ c :: clauses.takeWhile (·.connector = .both), ReadAs item d.text.toList d.expr)
        ∧ ∃ e, readChain? .both .both item bound
            (c.text.toList ++ (connectedText (clauses.map ReadClause.written) ++ rest))
          = some (e, connectedText ((clauses.dropWhile (·.connector = .both)).map ReadClause.written)
              ++ rest) := by
  -- along the run; each clause is the first of what is left
  induction clauses generalizing c bound with
  | nil =>
      rcases (hclauses c List.mem_cons_self).readChain? (endsWord_connectedText hrest [])
        .both .both bound with hhalted | ⟨hread, b, hchain⟩
      · exact Or.inl hhalted
      · refine Or.inr ⟨by simpa using hread, c.expr, hchain.trans ?_⟩
        simp [cutConnective?_end .both hrest]
  | cons d clauses ih =>
      rcases (hclauses c List.mem_cons_self).readChain?
        (endsWord_connectedText hrest ((d :: clauses).map ReadClause.written)) .both .both bound with
        hhalted | ⟨hread, b, hchain⟩
      · exact Or.inl hhalted
      rw [hchain, List.map_cons, ReadClause.written, connectedText_cons]
      cases hd : d.connector with
      | either =>
          refine Or.inr ⟨by simpa [hd] using hread, c.expr, ?_⟩
          simp [cutConnective?_other (c := .both) (d := .either) (by decide), hd,
            ReadClause.written]
      | both =>
          simp only [List.cons_append, List.append_assoc, cutConnective?_append]
          rcases ih d b fun x hx => hclauses x (List.mem_cons_of_mem _ hx) with
            hhalted | ⟨hall, e, hrun⟩
          · exact Or.inl (hhalted.map _)
          · refine Or.inr ⟨?_, .both c.expr e, by simp [hrun, hd]⟩
            simp only [List.takeWhile_cons, hd]
            exact List.forall_mem_cons.mpr ⟨hread, by simpa using hall⟩

/-- **A filter is read no further than a clause that is not read.** -/
lemma readChain?_either_halted (hrest : EndsFilter rest) (c : ReadClause) (clauses : List ReadClause)
    (bound : Nat) (hclauses : ∀ d ∈ c :: clauses, d.Settled item)
    (hunread : ∃ d ∈ c :: clauses, ¬ ReadAs item d.text.toList d.expr) :
    Halted (readChain? .either .either
        (fun text => readChain? .both .both item (text.length + 1) text) bound
        (c.text.toList ++ (connectedText (clauses.map ReadClause.written) ++ rest))) := by
  induction hn : clauses.length using Nat.strong_induction_on generalizing c clauses bound with
  | h n ih =>
      rcases readChain?_both_cases hrest c clauses
        ((c.text.toList ++ (connectedText (clauses.map ReadClause.written) ++ rest)).length + 1)
        hclauses with hhalted | ⟨hall, e, hrun⟩
      · refine Halted.readChain? ?_ _ _ _
        exact hhalted
      cases bound with
      | zero => exact halted_none
      | succ bound =>
      rw [readChain?, hrun]
      -- the clause that is not read stands behind the run
      have hsplit := List.takeWhile_append_dropWhile (p := fun d : ReadClause => d.connector = .both)
        (l := clauses)
      obtain ⟨d, hd, hnot⟩ := hunread
      rw [← hsplit, ← List.cons_append] at hd
      have hbehind := (List.mem_append.mp hd).resolve_left fun h => hnot (hall d h)
      have hhead := List.head?_dropWhile_not (fun d : ReadClause => decide (d.connector = .both))
        clauses
      have hsub := List.dropWhile_sublist (fun d : ReadClause => decide (d.connector = .both))
        (l := clauses)
      generalize clauses.dropWhile (·.connector = .both) = behind at hbehind hhead hsub ⊢
      cases behind with
      | nil => cases hbehind
      | cons x behind =>
          have hx : x.connector = .either := by
            cases hc : x.connector with
            | both => simp [hc] at hhead
            | either => rfl
          have hrest := ih behind.length (hn ▸ hsub.length_le) x behind bound
            (fun y hy => hclauses y (List.mem_cons_of_mem _ (hsub.subset hy))) ⟨d, hbehind, hnot⟩ rfl
          simp only [List.map_cons, ReadClause.written, hx, connectedText_cons, List.cons_append,
            List.append_assoc, cutConnective?_append]
          exact hrest.map _

lemma readJoined?_halted (hrest : EndsFilter rest) (clauses : List ReadClause)
    (hclauses : ∀ d ∈ clauses, d.Settled item)
    (hunread : ∃ d ∈ clauses, ¬ ReadAs item d.text.toList d.expr) :
    Halted (readJoined? item ((joinClauses (clauses.map ReadClause.written)).toList ++ rest)) := by
  cases clauses with
  | nil =>
      obtain ⟨d, hd, -⟩ := hunread
      cases hd
  | cons c clauses =>
      have hjoin : (joinClauses ((c :: clauses).map ReadClause.written)).toList
          = c.text.toList ++ connectedText (clauses.map ReadClause.written) :=
        joinClauses_cons c.connector c.text _
      rw [hjoin, List.append_assoc]
      exact readChain?_either_halted hrest c clauses _ hclauses hunread

end Chains

/-! ## A value behind `pr` -/

/-- No literal starts like a connector. -/
lemma exists_literal_head {lax : Bool} {v : FilterValue} (h : v.isReadable lax = true) :
    ∃ c cs, v.literal.toList = c :: cs ∧ c.toLower ≠ 'a' ∧ c.toLower ≠ 'o' := by
  cases v with
  | bool b => cases b <;> exact ⟨_, _, rfl, by decide⟩
  | integer n =>
      obtain ⟨t, ht, htext⟩ := exists_isPlain_integerText n
      rw [FilterValue.literal, String.toList_ofList, ← htext]
      exact ht.isJson.exists_head
  | float x =>
      rw [FilterValue.literal, String.toList_ofList, doubleLiteral]
      cases hx : x.number with
      | finite negative m e =>
          obtain ⟨t, ht, htext⟩ := exists_isPlain_plain hx
          simp only
          rw [← htext]
          exact ht.isJson.exists_head
      | nan => exact ⟨_, _, rfl, by decide⟩
      | infinite negative => cases negative <;> exact ⟨_, _, rfl, by decide⟩
  | string s =>
      rw [FilterValue.literal, String.toList_ofList]
      exact ⟨_, _, rfl, by decide⟩
  | raw expression => simp [FilterValue.isReadable] at h

lemma blocks_literal {lax : Bool} {v : FilterValue} (h : v.isReadable lax = true) (rest : List Char) :
    Blocks (' ' :: (v.literal.toList ++ rest)) := by
  obtain ⟨d, ds, hds, ha, ho⟩ := exists_literal_head h
  rw [hds, List.cons_append]
  refine ⟨List.cons_ne_nil _ _, cutWord?_eq_none (by simp), fun c => ?_⟩
  cases c <;>
    simp [cutConnective?, cutWord?, sameIgnoringCase, foldCase, Connector.keyword, ha, ho]

/-- The test ends behind `pr`, in front of the value. -/
lemma readTest?_presence_value {lax : Bool} {attr : String} (hattr : isAttributePath attr = true)
    (literal : String) (rest : List Char) :
    readTest? lax ((attr ++ " " ++ Operator.pr.keyword ++ " " ++ literal).toList ++ rest)
      = some (.present attr, ' ' :: (literal.toList ++ rest)) := by
  have htext : (attr ++ " " ++ Operator.pr.keyword ++ " " ++ literal).toList ++ rest
      = attr.toList ++ ' ' :: (Operator.pr.keyword.toList ++ ' ' :: (literal.toList ++ rest)) := by
    simp
  rw [htext, readTest?, readAttribute?_append hattr]
  simp [cutWord?_singleton, readOperator?_keyword]

section Filters

variable {lax : Bool} {depth : Nat}

/-- A factor on which reading halts makes a filter on which it does. -/
lemma haltsFilter_factor {text : String}
    (h : Halts (readFactor? lax (readFilter? lax depth)) text.toList) :
    HaltsFilter (readFilter? lax (depth + 1)) text.toList := by
  intro rest hrest
  have hhalted := readJoined?_halted hrest [⟨.either, text, .raw ""⟩]
    (List.forall_mem_singleton.mpr (Or.inr h))
    ⟨_, List.mem_singleton_self _, fun hread => hread.not_halts h⟩
  have htext : (joinClauses [(.either, text)]).toList = text.toList := by
    simp [joinClauses_cons]
  rw [List.map_singleton, ReadClause.written, htext] at hhalted
  exact hhalted

/-- **Reading halts on a test of presence with a value**, negated or not. -/
lemma halts_presence_value {attr : String} {v : FilterValue} (negate : Bool)
    (hattr : isAttributePath attr = true) (hv : v.isReadable lax = true)
    (hdepth : (comparisonClause attr .pr v negate).toList.length ≤ depth) :
    Halts (readFactor? lax (readFilter? lax depth)) (comparisonClause attr .pr v negate).toList := by
  have htext : (attr ++ " " ++ Operator.pr.keyword ++ " " ++ v.literal).toList
      = attr.toList ++ ' ' :: 'p' :: ('r' :: ' ' :: v.literal.toList) := by
    simp [Operator.keyword]
  have hbare : ∀ inner, Halts (readFactor? lax inner)
      (attr ++ " " ++ Operator.pr.keyword ++ " " ++ v.literal).toList := by
    intro inner rest _
    rw [readFactor?_eq_readTest? lax inner hattr htext (by decide), readTest?_presence_value hattr]
    rintro _ ⟨⟩
    exact blocks_literal hv rest
  rw [comparisonClause] at hdepth ⊢
  cases negate with
  | false => exact hbare _
  | true =>
      have hlt := length_lt_wrapExpression (attr ++ " " ++ Operator.pr.keyword ++ " " ++ v.literal)
        true false rfl
      obtain ⟨depth, rfl⟩ : ∃ n, depth = n + 1 := ⟨depth - 1, by omega⟩
      intro rest _
      rw [readFactor?_wrap_eq_none rfl (readClosed?_eq_none (haltsFilter_factor (hbare _)))]
      exact halted_none

/-! ## A group without conditions -/

lemma readFactor?_end {rest : List Char} (h : EndsFilter rest) (inner : TextReader FilterExpr) :
    readFactor? lax inner rest = none := by
  have hattr : readAttribute? rest = none := by
    cases rest with
    | nil => rfl
    | cons c rest =>
        rw [h c rfl]
        rfl
  have hword : ∀ c word, c.toLower ≠ ')' → cutWord? (c :: word) rest = none := fun c word hc =>
    cutWord?_eq_none fun d hd => by
      rw [h d hd]
      exact hc.symm
  rw [readFactor?, hword 'n' _ (by decide), hword '(' _ (by decide), readTest?, hattr]
  rfl

/-- There is no filter in front of a closing parenthesis. -/
lemma haltsFilter_nil (lax : Bool) (depth : Nat) : HaltsFilter (readFilter? lax depth) [] := by
  intro rest hrest
  cases depth with
  | zero => exact halted_none
  | succ depth =>
      rw [List.nil_append, readFilter?, readJoined?]
      refine Halted.readChain? ?_ _ _ _
      refine Halted.readChain? ?_ _ _ _
      rw [readFactor?_end hrest]
      exact halted_none

end Filters

/-! ## Conditions -/

mutual

/-- A condition without raw text that has attribute paths and readable values. -/
def Condition.isClean (lax : Bool) : Condition → Bool
  | .comparison attr _ value _ _ => isAttributePath attr && value.isReadable lax
  | .presence attr _ _ => isAttributePath attr
  | .membership attr values _ _ => isAttributePath attr && values.all (·.isReadable lax)
  | .raw _ _ => false
  | .group conditions _ _ => Condition.areClean lax conditions

def Condition.areClean (lax : Bool) : List Condition → Bool
  | [] => true
  | condition :: conditions => condition.isClean lax && Condition.areClean lax conditions

end

lemma Condition.areClean_iff {lax : Bool} {conditions : List Condition} :
    Condition.areClean lax conditions = true ↔ ∀ c ∈ conditions, c.isClean lax = true := by
  induction conditions with
  | nil => simp [areClean]
  | cons c conditions ih => simp [areClean, ih]

lemma Condition.areReadable_iff {lax : Bool} {conditions : List Condition} :
    Condition.areReadable lax conditions = true ↔ ∀ c ∈ conditions, c.isReadable lax = true := by
  induction conditions with
  | nil => simp [areReadable]
  | cons c conditions ih => simp [areReadable, ih]

lemma Condition.exists_of_areReadable_eq_false {lax : Bool} {conditions : List Condition}
    (h : Condition.areReadable lax conditions = false) :
    ∃ c ∈ conditions, c.isReadable lax = false := by
  by_contra! hall
  have hreadable : Condition.areReadable lax conditions = true :=
    areReadable_iff.mpr fun c hc => Bool.eq_true_of_not_eq_false (hall c hc)
  rw [h] at hreadable
  cases hreadable

/-- A clean membership test is readable. -/
lemma Condition.not_isLoneMembership_of_clean {lax : Bool} {conditions : List Condition}
    (hclean : Condition.areClean lax conditions = true)
    (h : Condition.areReadable lax conditions = false) :
    ¬ isLoneMembership conditions = true := fun hlone => by
  obtain ⟨attr, values, c, rfl⟩ := eq_of_isLoneMembership hlone
  have hsame : areReadable lax [.membership attr values c false]
      = areClean lax [.membership attr values c false] := by
    simp only [areReadable, isReadable, areClean, isClean]
  rw [hsame, hclean] at h
  cases h

mutual

lemma Condition.isClean_of_isReadable {lax : Bool} :
    ∀ {c : Condition}, c.isReadable lax = true → c.isClean lax = true
  | .comparison _ _ _ _ _, h => by simp_all [isReadable, isClean]
  | .presence _ _ _, h => h
  | .membership _ _ _ _, h => h
  | .raw _ _, h => by simp [isReadable] at h
  | .group _ _ _, h => by
      rw [isReadable, Bool.and_eq_true] at h
      rw [isClean]
      exact areClean_of_areReadable h.2

lemma Condition.areClean_of_areReadable {lax : Bool} :
    ∀ {conditions : List Condition}, Condition.areReadable lax conditions = true →
      Condition.areClean lax conditions = true
  | [], _ => rfl
  | _ :: _, h => by
      rw [areReadable, Bool.and_eq_true] at h
      rw [areClean, isClean_of_isReadable h.1, areClean_of_areReadable h.2, Bool.and_self]

end

section Conditions

variable {lax : Bool} {d : Dialect}

/-- Reading halts on the filter of a list of conditions that is empty, or on one of whose clauses it
halts. -/
lemma haltsFilter_finishFilter (hd : d.presence = presenceClause) {conditions : List Condition}
    {depth : Nat} (hclean : Condition.areClean lax conditions = true)
    (hunreadable : (!conditions.isEmpty && Condition.areReadable lax conditions) = false)
    (hdepth : (finishFilter conditions (d.clauses conditions)).toList.length ≤ depth)
    (hhalts : (∀ c ∈ conditions, (d.clause c).toList.length ≤ depth) →
      ∀ c ∈ conditions, c.isReadable lax = false →
        Halts (readFactor? lax (readFilter? lax depth)) (d.clause c).toList) :
    HaltsFilter (readFilter? lax (depth + 1))
      (finishFilter conditions (d.clauses conditions)).toList := by
  -- a lone membership test sheds its parentheses, but it is readable
  by_cases hempty : conditions = []
  · subst hempty
    exact haltsFilter_nil lax (depth + 1)
  have hnot : Condition.areReadable lax conditions = false := by simpa [hempty] using hunreadable
  rw [finishFilter_eq d hempty (Condition.not_isLoneMembership_of_clean hclean hnot)] at hdepth ⊢
  have hlength : ∀ c ∈ conditions, (d.clause c).toList.length ≤ depth := fun c hc =>
    (length_clause_le d hc).trans hdepth
  intro rest hrest
  refine readJoined?_halted hrest _ (fun clause hclause => ?_) ?_
  · obtain ⟨c, hc, rfl⟩ := List.mem_map.mp hclause
    cases hread : c.isReadable lax with
    | true => exact Or.inl (readFactor?_clause hd c depth hread (hlength c hc))
    | false => exact Or.inr (hhalts hlength c hc hread)
  · obtain ⟨c, hc, hread⟩ := Condition.exists_of_areReadable_eq_false hnot
    exact ⟨_, List.mem_map_of_mem hc, fun h => h.not_halts (hhalts hlength c hc hread)⟩

mutual

/-- **Reading halts on the clause of a clean condition that is not readable.** -/
theorem halts_clause (hd : d.presence = presenceClause) :
    ∀ (condition : Condition) (depth : Nat), condition.isClean lax = true →
      condition.isReadable lax = false → (d.clause condition).toList.length ≤ depth →
      Halts (readFactor? lax (readFilter? lax depth)) (d.clause condition).toList
  | .comparison attr operator v _ negate, depth, hclean, h, hdepth => by
      rw [Condition.isClean, Bool.and_eq_true] at hclean
      obtain rfl : operator = .pr := by simpa [Condition.isReadable, hclean] using h
      exact halts_presence_value negate hclean.1 hclean.2 hdepth
  | .presence attr _ _, _, hclean, h, _ => by
      rw [Condition.isClean] at hclean
      rw [Condition.isReadable, hclean] at h
      cases h
  | .membership attr values _ _, _, hclean, h, _ => by
      rw [Condition.isClean] at hclean
      rw [Condition.isReadable, hclean] at h
      cases h
  | .raw _ _, _, hclean, _, _ => by simp [Condition.isClean] at hclean
  | .group conditions _ negate, depth, hclean, h, hdepth => by
      rw [Condition.isClean] at hclean
      rw [Condition.isReadable] at h
      rw [Dialect.clause] at hdepth ⊢
      have hlt := length_lt_wrapExpression (finishFilter conditions (d.clauses conditions))
        negate true (by simp)
      obtain ⟨depth, rfl⟩ : ∃ n, depth = n + 1 := ⟨depth - 1, by omega⟩
      have hhalts := haltsFilter_finishFilter hd hclean h (by omega)
        (halts_clauses hd conditions depth hclean)
      intro rest _
      rw [readFactor?_wrap_eq_none (by simp) (readClosed?_eq_none hhalts)]
      exact halted_none

/-- Reading halts on those of the clauses of clean conditions that are not readable. -/
theorem halts_clauses (hd : d.presence = presenceClause) :
    ∀ (conditions : List Condition) (depth : Nat), Condition.areClean lax conditions = true →
      (∀ c ∈ conditions, (d.clause c).toList.length ≤ depth) →
      ∀ c ∈ conditions, c.isReadable lax = false →
        Halts (readFactor? lax (readFilter? lax depth)) (d.clause c).toList
  | [], _, _, _ => by simp
  | condition :: conditions, depth, hclean, hdepth => by
      rw [Condition.areClean, Bool.and_eq_true] at hclean
      have hfirst := halts_clause hd condition depth hclean.1
      have hothers := halts_clauses hd conditions depth hclean.2 fun c hc =>
        hdepth c (List.mem_cons_of_mem _ hc)
      intro c hc h
      rcases List.mem_cons.mp hc with rfl | hc
      · exact hfirst h (hdepth c List.mem_cons_self)
      · exact hothers c hc h

end

/-- **The filter of clean conditions is read as what they denote, or not at all.** -/
theorem readExpression?_filter_clean (hd : d.presence = presenceClause) {conditions : List Condition}
    (hclean : Condition.areClean lax conditions = true) :
    readExpression? lax (d.filter conditions)
      = if (!conditions.isEmpty && Condition.areReadable lax conditions) = true then
          some (filterExpression conditions)
        else none := by
  split
  · next h =>
    rw [Bool.and_eq_true] at h
    exact readExpression?_filter_of_presence hd (by simpa using h.1) h.2
  · next h =>
    have hhalted := haltsFilter_finishFilter hd hclean (by simpa using h) (Nat.le_refl _)
      (halts_clauses hd conditions _ hclean) [] endsFilter_nil
    rw [List.append_nil] at hhalted
    rw [readExpression?, Dialect.filter]
    split
    · next e hread => exact absurd rfl (hhalted _ hread).ne_nil
    · rfl

end Conditions

end DirectorySearch
