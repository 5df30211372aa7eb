import DirectorySearch.Proofs.Directory.CursorProtocol
import Mathlib.Data.List.Induction
import Mathlib.Data.List.ReduceOption

/-!
# Following the tokens to the end

A cursor stops when it has seen more entries than its budget.  Without a budget it would read on until a
page names no token or a reply fails.  This file tells those pages without the cursor, and compares what
a cursor reads with them.

* **`Connection.traversal`** — the pages of a search whose tokens are followed to the end.
* `Connection.traversal_eq_append` — a history in which every page but the last names a token is a
  beginning of the traversal, and what is missing of it starts where the history ends.
* `PageCursor.take_eq_pull` — reading at most so many outcomes makes the same calls as so many calls.
* `PageCursor.Follows.reads_enough` — a cursor stops before the end of the traversal only when the
  entries it was asked for are at hand.

The size field of a page enters once, in `reads_enough`: the budget is compared with the sizes that the
replies report, and only if no reply reports more entries than it holds does a spent budget mean that
there are entries enough.
-/

namespace DirectorySearch

/-! ## The traversal -/

/-- The pages of a search from a token on, each following the token of the page before. -/
def Profile.pagesFrom (f : Profile) (q : CompiledQuery) (closing : CompiledQuery → Reply Unit) :
    Option String → List Exchange → PageHistory
  | token, [] =>
    [f.readPage ((closing (q.page f.pagination.pageSize token)).map fun _ => Json.null).outcome]
  | token, exchange :: replies =>
    let page := f.readPage (exchange (q.page f.pagination.pageSize token)).outcome
    page ::
      if (PageHistory.token [page]).isSome then
        f.pagesFrom q closing (PageHistory.token [page]) replies
      else []

/-- **The traversal of a search**: its pages when the tokens are followed until none is given or a
reply fails. -/
def Connection.traversal (c : Connection) (q : CompiledQuery) : PageHistory :=
  c.profile.pagesFrom q c.transport.closing none c.transport.replies

/-- Whether a history is followed by another page when there is no budget. -/
def PageHistory.goesOn (h : PageHistory) : Bool := h.isEmpty || h.token.isSome

lemma PageHistory.goesOn_of_continues {budget : Nat} {h : PageHistory}
    (hcont : h.continues budget = true) : h.goesOn = true := by
  unfold continues at hcont
  unfold goesOn token
  cases hlast : h.getLast? with
  | none => simp [List.getLast?_eq_none_iff.mp hlast]
  | some page =>
      rw [hlast] at hcont
      cases page with
      | ok page => simp_all
      | error e => simp at hcont

section Traversal

variable {f : Profile} {q : CompiledQuery}

/-- After the last reply there is no token to follow. -/
lemma Profile.token_closing (reply : Reply Unit) :
    PageHistory.token [f.readPage (reply.map fun _ => Json.null).outcome] = none := by
  cases houtcome : reply.outcome with
  | error e => simp [Reply.map, houtcome, Except.map, Profile.readPage, PageHistory.token]
  | ok u =>
      cases u
      simp [Reply.map, houtcome, Except.map, Profile.readPage, PageHistory.token, Page.ofReply,
        PageCursor.continuationToken_null]

/-- The first page is the answer to the first request, and the rest follows its token. -/
lemma Profile.pagesFrom_eq (token : Option String) (t : Transport) {page : Except ConnectionError Page}
    (hpage : f.readPage (t.send (q.page f.pagination.pageSize token)).1.outcome = page) :
    f.pagesFrom q t.closing token t.replies
      = page ::
        if (PageHistory.token [page]).isSome then
          f.pagesFrom q (t.send (q.page f.pagination.pageSize token)).2.closing
            (PageHistory.token [page]) (t.send (q.page f.pagination.pageSize token)).2.replies
        else [] := by
  subst hpage
  obtain ⟨replies, closing⟩ := t
  cases replies with
  | nil => simp [Profile.pagesFrom, Transport.send, Profile.token_closing]
  | cons exchange replies => rfl

/-- **A history is a beginning of the traversal**, if it is what comes back for its requests and every
page but the last names a token.  The traversal goes on where the history ends. -/
lemma Connection.traversal_eq_append (c : Connection) {h : PageHistory}
    (hreplies : h = (c.transport.answers (h.requests q c.profile.pagination.pageSize)).map
      c.profile.readPage)
    (hearlier : ∀ i < h.length, PageHistory.goesOn (h.take i) = true) :
    c.traversal q
      = h ++
        if h.goesOn then
          c.profile.pagesFrom q
            (c.transport.after (h.requests q c.profile.pagination.pageSize)).closing h.token
            (c.transport.after (h.requests q c.profile.pagination.pageSize)).replies
        else [] := by
  induction h using List.reverseRecOn with
  | nil => rfl
  | append_singleton h page ih =>
      rw [PageHistory.requests_concat, Transport.answers_concat, List.map_append,
        List.map_singleton] at hreplies
      obtain ⟨hinit, hlast⟩ := List.append_inj' hreplies rfl
      have hgoes : PageHistory.goesOn h = true := by
        have := hearlier h.length (by simp)
        rwa [List.take_left] at this
      have hinitial := ih hinit fun i hi => by
        have := hearlier i (by simp; omega)
        rwa [List.take_append_of_le_length (Nat.le_of_lt hi)] at this
      have hpage := (List.singleton_inj.mp hlast).symm
      rw [hinitial, if_pos hgoes, Profile.pagesFrom_eq _ _ hpage, PageHistory.requests_concat,
        Transport.after_concat]
      simp [PageHistory.goesOn]

end Traversal

/-! ## At most so many outcomes -/

namespace PageCursor

lemma next_of_done {p : PageCursor} (hbuffer : p.buffer = []) (hdone : p.done = true)
    (c : Connection) : p.next c = (none, p, c) := by
  rw [next, hbuffer, dif_pos hdone]

/-- A call that gives nothing leaves a cursor that gives nothing. -/
lemma next_of_none {p : PageCursor} {c : Connection} (h : (p.next c).1 = none) :
    (p.next c).2.1.next (p.next c).2.2 = (none, (p.next c).2) := by
  fun_induction PageCursor.next p c with
  | case1 p c entry rest hbuffer => simp at h
  | case2 p c hbuffer hdone => exact next_of_done hbuffer hdone c
  | case3 p c hbuffer hdone e p' c' hfetch => simp at h
  | case4 p c hbuffer hdone p' c' hfetch ih => exact ih h

/-- So do all calls after it. -/
lemma pull_of_none {p : PageCursor} {c : Connection} (h : p.next c = (none, p, c)) (n : Nat) :
    p.pull c n = (List.replicate n none, p, c) := by
  induction n with
  | zero => rfl
  | succ n ih =>
      rw [pull, h]
      dsimp only
      rw [ih]
      rfl

/-- **Reading at most so many outcomes makes the same calls as so many calls**: those that it leaves
out would give nothing. -/
lemma take_eq_pull (p : PageCursor) (c : Connection) (n : Nat) :
    p.take c n = ((p.pull c n).1.reduceOption, (p.pull c n).2) := by
  induction n generalizing p c with
  | zero => rfl
  | succ n ih =>
      rw [take, pull]
      cases hnext : p.next c with
      | mk o r =>
          cases o with
          | some o =>
              dsimp only
              rw [ih]
              simp
          | none =>
              have hend := next_of_none (p := p) (c := c) (by rw [hnext])
              rw [hnext] at hend
              dsimp only
              rw [pull_of_none hend]
              simp

end PageCursor

/-! ## A limited search and the traversal -/

namespace PageHistory

/-- The first outcomes, when there are entries enough. -/
lemma outcomes_take {h : PageHistory} {n : Nat} (hn : n ≤ h.entries.length) :
    h.outcomes.take n = (h.entries.take n).map .ok := by
  rw [outcomes, List.take_append_of_le_length (by simpa using hn), List.map_take]

/-- The outcomes of the first calls are the first outcomes. -/
lemma reduceOption_outcomes (h : PageHistory) (n : Nat) :
    ((List.range n).map fun k => h.outcomes[k]?).reduceOption = h.outcomes.take n := by
  induction n with
  | zero => rfl
  | succ n ih =>
      rw [List.range_succ, List.map_append, List.reduceOption_append, ih, List.map_singleton,
        List.reduceOption_singleton, List.take_add_one]

/-- If no page reports more entries than it holds, the count is a count of entries. -/
lemma count_le_length_entries {h : PageHistory}
    (hsize : ∀ page, .ok page ∈ h → page.size ≤ page.entries.length) :
    h.count ≤ h.entries.length := by
  induction h with
  | nil => exact Nat.le_refl _
  | cons page h ih =>
      have hrest := ih fun page hmem => hsize page (List.mem_cons_of_mem _ hmem)
      have hpage : pageCount page ≤ (pageEntries page).length := by
        cases page with
        | ok page => exact hsize page List.mem_cons_self
        | error e => exact Nat.le_refl _
      show pageCount page + count h ≤ (pageEntries page ++ entries h).length
      rw [List.length_append]
      exact Nat.add_le_add hpage hrest

/-- A history that goes on although its budget is spent has seen more entries than the budget. -/
lemma budget_lt_count {h : PageHistory} {budget : Nat} (hgoes : h.goesOn = true)
    (hcont : h.continues budget = false) : budget < h.count := by
  rcases List.eq_nil_or_concat' h with rfl | ⟨h, page, rfl⟩
  · simp [continues] at hcont
  · cases page with
    | error e => simp [goesOn, token] at hgoes
    | ok page =>
        have htoken : page.token.isSome = true := by simpa [goesOn, token] using hgoes
        rw [continues_concat_ok, htoken, Bool.true_and, decide_eq_false_iff_not] at hcont
        rw [count_append]
        exact Nat.lt_of_not_le hcont

end PageHistory

namespace PageCursor.Follows

variable {start c : Connection} {q : CompiledQuery} {limit : UInt32} {h : PageHistory} {n : Nat}
  {p : PageCursor}

lemma goesOn_take (hf : Follows start q limit h n p c) {i : Nat} (hi : i < h.length) :
    PageHistory.goesOn (h.take i) = true :=
  PageHistory.goesOn_of_continues (hf.earlier i hi)

/-- What a cursor has read is a beginning of the traversal. -/
lemma prefix_traversal (hf : Follows start q limit h n p c) : h <+: start.traversal q := by
  rw [start.traversal_eq_append hf.replies fun i hi => hf.goesOn_take hi]
  exact List.prefix_append _ _

/-- **A cursor that was asked for as many entries as its limit** has read the whole traversal, or has
entries enough. -/
lemma reads_enough (hf : Follows start q limit h limit.toNat p c)
    (hsize : ∀ page, .ok page ∈ start.traversal q → page.size ≤ page.entries.length) :
    start.traversal q = h ∨ limit.toNat ≤ h.entries.length := by
  cases hgoes : h.goesOn with
  | false =>
      left
      rw [start.traversal_eq_append hf.replies fun i hi => hf.goesOn_take hi, hgoes]
      simp
  | true =>
      right
      cases hcont : h.continues (start.searchBudget limit) with
      | true => exact hf.live hcont
      | false =>
          have hcount : start.searchBudget limit < h.count :=
            PageHistory.budget_lt_count hgoes hcont
          have hentries : h.count ≤ h.entries.length :=
            PageHistory.count_le_length_entries fun page hmem =>
              hsize page (hf.prefix_traversal.subset hmem)
          have hbudget : limit.toNat ≤ start.searchBudget limit := Nat.le_max_right _ _
          omega

/-- **Every page is asked for on demand**: the pages before it hold fewer entries than calls were
made. -/
lemma demand (hc : start.pretending = false) (q : CompiledQuery) (limit : UInt32) (n : Nat) :
    ∀ i < (start.pullHistory q limit n).length,
      (PageHistory.entries ((start.pullHistory q limit n).take i)).length < n := by
  induction n with
  | zero =>
      intro i hi
      rw [(initial hc q limit).pullHistory_eq (m := 0)] at hi
      simp at hi
  | succ n ih =>
      obtain ⟨h, hf, -⟩ := Follows.pull hc q limit n
      obtain ⟨more, hnext, -, hmore, hempty⟩ := hf.next
      have hnext : Follows start q limit (h ++ more) (n + 1)
          ((start.cursor q limit).pull start (n + 1)).2.1
          ((start.cursor q limit).pull start (n + 1)).2.2 := by
        rw [PageCursor.pull_succ]
        exact hnext
      rw [hf.pullHistory_eq] at ih
      rw [hnext.pullHistory_eq]
      intro i hi
      rcases Nat.lt_or_ge i h.length with hlow | hhigh
      · rw [List.take_append_of_le_length (Nat.le_of_lt hlow)]
        exact Nat.lt_succ_of_lt (ih i hlow)
      · -- the page was read in this call, when all entries before it were handed out
        obtain ⟨j, rfl⟩ := Nat.exists_eq_add_of_le hhigh
        have hj : j < more.length := by simpa using hi
        have hlength := (hmore (List.ne_nil_of_length_pos (by omega))).1
        rw [List.take_length_add_append, PageHistory.entries_append, hempty j hj, List.append_nil,
          hlength]
        exact Nat.lt_succ_self n

end PageCursor.Follows

end DirectorySearch
