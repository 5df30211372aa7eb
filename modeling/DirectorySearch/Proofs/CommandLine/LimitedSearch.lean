import DirectorySearch.CommandLine.Run
import DirectorySearch.Proofs.Directory.Traversal
import DirectorySearch.Proofs.Json.OneLine
import Mathlib

/-!
# A limited search loses nothing

A search is limited twice: the cursor asks for no page when its budget is spent, and the program prints
no more entries than its limit.  This file shows that the two limits together do what the second one
alone would do on all pages of the search.

* `printEntries` — what a search prints of a cursor; `search` is made of it.
* `entryLines_take` — the lines of the first outcomes: the first entries, and the failure behind them
  if it is among these outcomes.
* **`limited_search`** — the first entries of the traversal are printed, one line each, its failure is
  reported exactly if it comes before the limit is reached, and no page is read behind the one that
  holds the last entry printed.
-/

namespace DirectorySearch.CommandLine

/-- Prints the entries of a cursor, at most as many as a limit: the lines, the error that ended it, and
the connection afterwards. -/
def printEntries (c : Connection) (p : PageCursor) (limit : UInt32) :
    (List String × Option ConnectionError) × Connection :=
  let (outcomes, _, c) := p.take c limit.toNat
  (entryLines outcomes, c)

/-- A search prints the entries of the cursor of its query. -/
theorem search_eq (around : Surroundings) (s : Settings) (request : SearchRequest) :
    search around s request =
      let c := s.connect around.deliveries
      let b := query request c.query
      let printed := printEntries c (b.cursor c) b.limit
      { exitCode := if printed.1.2.isSome then 1 else 0
        lines := printed.1.1
        error := printed.1.2.map fun e => "Error: " ++ e.message
        requests := s.endpoint.requests printed.2.sent
        log := logged around.environment s printed.2
        logging := s.logging } :=
  rfl

/-- The lines of the first outcomes of a history. -/
lemma entryLines_take (entries : List Json) (failure : Option ConnectionError) (n : Nat) :
    entryLines ((entries.map Except.ok ++ failure.toList.map Except.error).take n)
      = ((entries.take n).map Json.text, if entries.length < n then failure else none) := by
  induction entries generalizing n with
  | nil =>
      cases n with
      | zero => rfl
      | succ n => cases failure <;> rfl
  | cons entry entries ih =>
      cases n with
      | zero => rfl
      | succ n =>
          rw [List.map_cons, List.cons_append, List.take_succ_cons, entryLines]
          simp only [ih, List.take_succ_cons, List.map_cons, List.length_cons,
            Nat.add_lt_add_iff_right]

section LimitedSearch

variable {c : Connection} {q : CompiledQuery} {limit : UInt32}

/-- The outcomes of a limited search are the first outcomes of the traversal. -/
lemma take_eq_traversal (hc : c.pretending = false)
    (hsize : ∀ page, .ok page ∈ c.traversal q → page.size ≤ page.entries.length) :
    ((c.cursor q limit).take c limit.toNat).1 = (c.traversal q).outcomes.take limit.toNat := by
  obtain ⟨h, hf, houtcomes⟩ := PageCursor.Follows.pull hc q limit limit.toNat
  have hread : ((c.cursor q limit).take c limit.toNat).1 = h.outcomes.take limit.toNat := by
    rw [PageCursor.take_eq_pull]
    show (c.pullOutcomes q limit limit.toNat).reduceOption = _
    rw [houtcomes, PageHistory.reduceOption_outcomes]
  rw [hread]
  rcases hf.reads_enough hsize with hall | henough
  · rw [hall]
  · obtain ⟨more, hmore⟩ := hf.prefix_traversal
    have hentries : (c.traversal q).entries = h.entries ++ PageHistory.entries more := by
      rw [← hmore, PageHistory.entries_append]
    rw [PageHistory.outcomes_take henough, PageHistory.outcomes_take, hentries,
      List.take_append_of_le_length henough]
    rw [hentries, List.length_append]
    exact Nat.le_add_right_of_le henough

/-- A limited search asks for a page of the traversal exactly if the pages before it hold too few
entries. -/
lemma take_sent (hc : c.pretending = false)
    (hsize : ∀ page, .ok page ∈ c.traversal q → page.size ≤ page.entries.length) :
    ∃ k, ((c.cursor q limit).take c limit.toNat).2.2.sent
          = c.sent ++ ((c.traversal q).requests q c.profile.pagination.pageSize).take k
        ∧ ∀ i, i < k ↔ i < (c.traversal q).length
            ∧ (PageHistory.entries ((c.traversal q).take i)).length < limit.toNat := by
  obtain ⟨h, hf, -⟩ := PageCursor.Follows.pull hc q limit limit.toNat
  obtain ⟨more, hmore⟩ := hf.prefix_traversal
  have hdemand := PageCursor.Follows.demand hc q limit limit.toNat
  rw [hf.pullHistory_eq] at hdemand
  refine ⟨h.length, ?_, fun i => ⟨fun hi => ?_, fun hi => ?_⟩⟩
  · obtain ⟨rest, hrest⟩ :=
      PageHistory.requests_prefix q c.profile.pagination.pageSize h more
    have htake : ((c.traversal q).requests q c.profile.pagination.pageSize).take h.length
        = h.requests q c.profile.pagination.pageSize := by
      rw [← hmore, ← hrest, ← PageHistory.length_requests q c.profile.pagination.pageSize h,
        List.take_left]
    rw [htake, PageCursor.take_eq_pull]
    exact hf.sent
  · rw [← hmore, List.take_append_of_le_length (Nat.le_of_lt hi), List.length_append]
    exact ⟨Nat.lt_add_right _ hi, hdemand i hi⟩
  · obtain ⟨hlength, hfew⟩ := hi
    by_contra hge
    rcases hf.reads_enough hsize with hall | henough
    · rw [hall] at hlength
      exact hge hlength
    · -- the pages before the `i`-th hold all entries that were read
      obtain ⟨j, rfl⟩ := Nat.exists_eq_add_of_le (Nat.le_of_not_lt hge)
      rw [← hmore, List.take_length_add_append, PageHistory.entries_append,
        List.length_append] at hfew
      omega

end LimitedSearch

/-- **What a limited search does**, told from all pages of the search. -/
structure LimitedSearch (c : Connection) (b : QueryBuilder) : Prop where
  /-- The first entries of the traversal are printed, in order. -/
  lines : (printEntries c (b.cursor c) b.limit).1.1
    = ((c.traversal b.compile).entries.take b.limit.toNat).map Json.text
  /-- Each of them is one line. -/
  one_line : ∀ line ∈ (printEntries c (b.cursor c) b.limit).1.1, '\n' ∉ line.toList
  /-- The failure of the traversal is reported if it comes before the limit is reached, and otherwise
  there is no error. -/
  error : (printEntries c (b.cursor c) b.limit).1.2
    = if (c.traversal b.compile).entries.length < b.limit.toNat then
        (c.traversal b.compile).failure
      else none
  /-- The requests are those of the first pages of the traversal: a page is asked for exactly if the
  pages before it hold fewer entries than the limit. -/
  requests : ∃ k, (printEntries c (b.cursor c) b.limit).2.sent
      = c.sent
        ++ ((c.traversal b.compile).requests b.compile c.profile.pagination.pageSize).take k
    ∧ ∀ i, i < k ↔ i < (c.traversal b.compile).length
        ∧ (PageHistory.entries ((c.traversal b.compile).take i)).length < b.limit.toNat

/-- **A limited search loses nothing and prints no more than asked**, if no page reports more entries
than it holds. -/
theorem limited_search {c : Connection} (hc : c.pretending = false) (b : QueryBuilder)
    (hsize : ∀ page, .ok page ∈ c.traversal b.compile → page.size ≤ page.entries.length) :
    LimitedSearch c b := by
  have hprinted : (printEntries c (b.cursor c) b.limit).1
      = (((c.traversal b.compile).entries.take b.limit.toNat).map Json.text,
          if (c.traversal b.compile).entries.length < b.limit.toNat then
            (c.traversal b.compile).failure
          else none) := by
    show entryLines ((c.cursor b.compile b.limit).take c b.limit.toNat).1 = _
    rw [take_eq_traversal hc hsize]
    exact entryLines_take _ _ _
  exact
    { lines := by rw [hprinted]
      one_line := by
        intro line hline
        rw [hprinted] at hline
        obtain ⟨entry, -, rfl⟩ := List.mem_map.mp hline
        exact entry.newline_not_mem_text
      error := by rw [hprinted]
      requests := take_sent hc hsize }

/-- Two entries of a directory that gives pages of one and of two entries, the second of which reports
none of them, and then an error: the error is not met. -/
theorem limited_search_before_error :
    let page : List (String × Json) → List Json → Exchange := fun members entries _ =>
      ⟨.ok (.object (members ++ [("_embedded", .object [("entries", .array entries)])])), []⟩
    let c : Connection :=
      { profile := .ofProvider "" .pingDirectory ⟨1, "/cursor", "/size"⟩
        transport :=
          { replies :=
              [page [("cursor", .string "X")] [.integer 1],
                page [("cursor", .string "Y"), ("size", .integer 0)] [.integer 2, .integer 3],
                fun _ => ⟨.error (.status 503 ""), []⟩] } }
    let b : QueryBuilder := (c.query.whereEquals "uid" (.string "u")).take 2
    c.pretending = false ∧ (c.traversal b.compile).failure.isSome = true
      ∧ (∀ page, .ok page ∈ c.traversal b.compile → page.size ≤ page.entries.length)
      ∧ LimitedSearch c b := by
  intro page c b
  have htraversal : c.traversal b.compile
      = [.ok ⟨some "X", 1, [.integer 1]⟩, .ok ⟨some "Y", 0, [.integer 2, .integer 3]⟩,
          .error (.transport (.status 503 ""))] := by cbv
  have hsize : ∀ page, .ok page ∈ c.traversal b.compile → page.size ≤ page.entries.length := by
    intro page hpage
    rw [htraversal] at hpage
    rcases List.mem_cons.mp hpage with hpage | hpage
    · exact Except.ok.inj hpage ▸ Nat.le_refl 1
    · rcases List.mem_cons.mp hpage with hpage | hpage
      · exact Except.ok.inj hpage ▸ Nat.zero_le 2
      · simp at hpage
  exact ⟨rfl, by rw [htraversal]; rfl, hsize, limited_search rfl b hsize⟩

end DirectorySearch.CommandLine
