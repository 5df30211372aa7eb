import DirectorySearch.Proofs.Directory.CursorExchanges
import DirectorySearch.Proofs.Filter.Meaning

/-!
# Looking up one user

`find` asks for the entry of one user among those that a query finds.  It adds the condition on `uid` to
the conditions of the query, joined by `and`, without a group around them.  An `or` among them therefore
takes the entries in front of it out of its reach.

* `QueryBuilder.find_sent` — the one query that is sent.
* **`find_only_finds_iff`** — all that it finds has the user identifier asked for, exactly if all that
  the conditions before the last `or` find has it anyway.
* `find_only_finds_without_or` — so it is where no condition but the first is joined by `or`.
* `find_finds_another` — and so it is not in general.
-/

namespace DirectorySearch

namespace QueryBuilder

/-- The condition that `find` adds. -/
def uidCondition (uid : String) : Condition := .comparison "uid" .eq (.string uid) .both false

/-- Outside a dry run, `find` sends one query, whose filter is that of the conditions with one more. -/
lemma find_sent {b : QueryBuilder} {c : Connection} (hc : c.pretending = false)
    (hd : b.dialect = .scim ∨ b.dialect = .pingDirectory) (uid : String) :
    ∃ q, (b.find uid c).2.sent = c.sent ++ [q]
      ∧ q.filter = b.dialect.filter (b.conditions ++ [uidCondition uid]) := by
  refine ⟨((b.whereEquals "uid" (.string uid)).take 1).compile, (Connection.Asked.run hc _).sent, ?_⟩
  obtain ⟨conditions, attributes, limit, offset, d⟩ := b
  rcases hd with rfl | rfl <;> rfl

/-- What the filter of `find` finds, by the conditions alone. -/
lemma forall_uid_iff {lax : Bool} {d : Dialect} (hd : d = .scim ∨ d = .pingDirectory)
    {conditions : List Condition} (hclean : Condition.areClean lax conditions = true) {uid : String}
    (huid : (FilterValue.string uid).isReadable lax = true) :
    (∀ entry : Entry, entry.Satisfies lax (d.filter (conditions ++ [uidCondition uid])) →
        entry.test "uid" .eq (.string uid) = true)
      ↔ (Condition.areReadable lax conditions = true → beforeLastOr conditions ≠ [] →
          ∀ entry : Entry, entry.Satisfies lax (d.filter (beforeLastOr conditions)) →
            entry.test "uid" .eq (.string uid) = true) := by
  have hpresence : d.presence = presenceClause := by
    rcases hd with rfl | rfl <;> rfl
  have hcondition : (uidCondition uid).isReadable lax = true := by
    rw [uidCondition, Condition.isReadable, huid]
    rfl
  exact forall_satisfies_append_iff hpresence hclean hcondition rfl

end QueryBuilder

open QueryBuilder

section Find

variable (b : QueryBuilder) (c : Connection) (uid : String) (lax : Bool)

/-- **All that is found has the user identifier asked for**, exactly if all that the conditions before
the last `or` find has it anyway.  A query whose filter cannot be read finds nothing. -/
theorem find_only_finds_iff (hd : b.dialect = .scim ∨ b.dialect = .pingDirectory)
    (hclean : Condition.areClean lax b.conditions = true)
    (huid : (FilterValue.string uid).isReadable lax = true) (hc : c.pretending = false) :
    ∃ q, (b.find uid c).2.sent = c.sent ++ [q]
      ∧ ((∀ entry : Entry, entry.Satisfies lax q.filter →
            entry.test "uid" .eq (.string uid) = true)
          ↔ (Condition.areReadable lax b.conditions = true → beforeLastOr b.conditions ≠ [] →
              ∀ entry : Entry, entry.Satisfies lax (b.dialect.filter (beforeLastOr b.conditions)) →
                entry.test "uid" .eq (.string uid) = true)) := by
  obtain ⟨q, hsent, hfilter⟩ := find_sent hc hd uid
  refine ⟨q, hsent, ?_⟩
  rw [hfilter]
  exact forall_uid_iff hd hclean huid

/-- A query with an `or` that finds only the user asked for, for so do the conditions in front of
it. -/
theorem find_only_finds_iff_guarded :
    let b := ((QueryBuilder.new .scim).whereEquals "uid" (.string "jdoe")).compare "b" .eq (.integer 2)
      .either false
    ∃ q, (b.find "jdoe" (.feeding (.ofProvider "" .scim {}) [])).2.sent = [q]
      ∧ ∀ entry : Entry, entry.Satisfies true q.filter →
          entry.test "uid" .eq (.string "jdoe") = true := by
  intro b
  obtain ⟨q, hsent, hiff⟩ := find_only_finds_iff b (.feeding (.ofProvider "" .scim {}) []) "jdoe" true
    (Or.inl rfl) rfl rfl rfl
  refine ⟨q, hsent, hiff.mpr fun _ _ entry hbefore => ?_⟩
  have hfirst : entry.Satisfies true (Dialect.scim.filter [uidCondition "jdoe"]) := hbefore
  rw [Entry.satisfies_filter_iff rfl rfl, holds_filterExpression_cons] at hfirst
  exact hfirst.2

/-- Without an `or` behind the first condition, all that is found has the user identifier. -/
theorem find_only_finds_without_or (hd : b.dialect = .scim ∨ b.dialect = .pingDirectory)
    (hclean : Condition.areClean lax b.conditions = true)
    (huid : (FilterValue.string uid).isReadable lax = true) (hc : c.pretending = false)
    (hboth : ∀ condition ∈ b.conditions.tail, condition.connector = .both) :
    ∃ q, (b.find uid c).2.sent = c.sent ++ [q]
      ∧ ∀ entry : Entry, entry.Satisfies lax q.filter →
          entry.test "uid" .eq (.string uid) = true := by
  obtain ⟨q, hsent, hfilter⟩ := find_sent hc hd uid
  refine ⟨q, hsent, ?_⟩
  rw [hfilter]
  exact (forall_uid_iff hd hclean huid).mpr fun _ hne => absurd (beforeLastOr_eq_nil hboth) hne

end Find

/-- **Behind an `or`, others are found as well**: here the filter is
`a eq 1 or b eq 2 and uid eq "jdoe"`. -/
theorem find_finds_another :
    let b := ((QueryBuilder.new .scim).whereEquals "a" (.integer 1)).compare "b" .eq (.integer 2)
      .either false
    ∃ (q : CompiledQuery) (entry : Entry),
      (b.find "jdoe" (.feeding (.ofProvider "" .scim {}) [])).2.sent = [q]
        ∧ entry.Satisfies true q.filter ∧ entry.test "uid" .eq (.string "jdoe") = false := by
  intro b
  obtain ⟨q, hsent, hfilter⟩ := find_sent (b := b) (c := .feeding (.ofProvider "" .scim {}) []) rfl
    (Or.inl rfl) "jdoe"
  let entry : Entry := { test := fun attr _ _ => attr = "a", present := fun _ => false }
  refine ⟨q, entry, hsent, ?_, rfl⟩
  have hconditions : b.conditions ++ [uidCondition "jdoe"]
      = [.comparison "a" .eq (.integer 1) .both false, .comparison "b" .eq (.integer 2) .either false,
          uidCondition "jdoe"] := rfl
  rw [hfilter, hconditions, Entry.satisfies_filter_iff rfl rfl, holds_filterExpression_cons]
  exact ⟨rfl, rfl⟩

end DirectorySearch
