import DirectorySearch.Proofs.Directory.PageHistory

/-!
# A cursor follows its history

A cursor keeps a token, a count, a buffer and a flag, and changes them in two places.  This file shows
that they are always what the pages read so far say.

* `fetch_connection`, `fetch_ok`, `fetch_error` — one page read: what is sent, and the cursor after a
  page and after an error.
* `Connection.Answered` — a connection was sent the requests of a history and nothing else.
* **`PageCursor.Follows`** — the invariant: the fields of the cursor are functions of the history, and
  so is what was handed out.
* `Follows.next` — one call keeps the invariant, and gives the outcome that the history names.

An empty page is followed by another one within the same call, so a call may add any number of pages to
the history.  The invariant therefore counts calls and pages separately.
-/

namespace DirectorySearch

/-! ## One page -/

namespace Connection

variable {c : Connection} {q : CompiledQuery}

lemma run_eq_error {e : TransportError} (hc : c.pretending = false)
    (h : (c.transport.send q).1.outcome = .error e) :
    c.run q = (.error (.transport e), (c.sending q).2) := by
  simp [run, hc, sending, h]

lemma run_eq_ok {reply : Json} (hc : c.pretending = false)
    (h : (c.transport.send q).1.outcome = .ok reply) :
    c.run q = (.ok reply, (c.sending q).2.executed q) := by
  simp [run, hc, sending, h]

end Connection

namespace PageCursor

variable {p : PageCursor} {c : Connection}

/-- Whatever comes of it, a page read sends one request. -/
lemma fetch_connection (hc : c.pretending = false) :
    (p.fetch c).2.2.profile = c.profile ∧ (p.fetch c).2.2.pretending = false
      ∧ (p.fetch c).2.2.sent = c.sent ++ [p.request]
      ∧ (p.fetch c).2.2.transport = (c.transport.send p.request).2 := by
  cases houtcome : (c.transport.send p.request).1.outcome with
  | error e =>
      rw [fetch, Connection.run_eq_error hc houtcome]
      exact ⟨rfl, hc, rfl, rfl⟩
  | ok reply =>
      rw [fetch, Connection.run_eq_ok hc houtcome]
      dsimp only
      split <;> exact ⟨rfl, hc, rfl, rfl⟩

lemma fetch_ok (hc : c.pretending = false) {page : Page}
    (h : c.profile.readPage (c.transport.send p.request).1.outcome = .ok page) :
    (p.fetch c).1 = none ∧ (p.fetch c).2.1 = p.addPage page := by
  cases houtcome : (c.transport.send p.request).1.outcome with
  | error e => simp [houtcome, Profile.readPage] at h
  | ok reply =>
      rw [houtcome] at h
      have hpage : Page.ofReply ((c.sending p.request).2.executed p.request).profile.pagination
          ((c.sending p.request).2.executed p.request).profile.layout reply = .ok page := h
      simp [fetch, Connection.run_eq_ok hc houtcome, hpage]

lemma fetch_error (hc : c.pretending = false) {e : ConnectionError}
    (h : c.profile.readPage (c.transport.send p.request).1.outcome = .error e) :
    (p.fetch c).1 = some e ∧ ∃ k, (p.fetch c).2.1 = { p with pages := k, done := true } := by
  cases houtcome : (c.transport.send p.request).1.outcome with
  | error e' =>
      rw [houtcome] at h
      rw [fetch, Connection.run_eq_error hc houtcome]
      exact ⟨congrArg some (Except.error.inj h), p.pages, rfl⟩
  | ok reply =>
      rw [houtcome] at h
      have hpage : Page.ofReply ((c.sending p.request).2.executed p.request).profile.pagination
          ((c.sending p.request).2.executed p.request).profile.layout reply = .error e := h
      simp only [fetch, Connection.run_eq_ok hc houtcome, hpage]
      exact ⟨trivial, p.pages + 1, rfl⟩

end PageCursor

/-! ## The invariant -/

/-- How many entries a search may see before no further page is asked for. -/
def Connection.searchBudget (c : Connection) (limit : UInt32) : Nat :=
  max c.profile.pagination.pageSize.toNat limit.toNat

lemma toNat_max (a b : UInt32) : (max a b).toNat = max a.toNat b.toNat := by
  show (if a ≤ b then b else a).toNat = max a.toNat b.toNat
  split
  · next h => exact (Nat.max_eq_right (UInt32.le_iff_toNat_le.mp h)).symm
  · next h =>
    rw [UInt32.le_iff_toNat_le] at h
    omega

/-- **A connection has answered a history**: it was sent the requests of the history and nothing else,
and the history is what it gave back. -/
structure Connection.Answered (start : Connection) (q : CompiledQuery) (limit : UInt32)
    (h : PageHistory) (c : Connection) : Prop where
  profile : c.profile = start.profile
  pretending : c.pretending = false
  sent : c.sent = start.sent ++ h.requests q start.profile.pagination.pageSize
  /-- The transport has answered them. -/
  transport : c.transport = start.transport.after (h.requests q start.profile.pagination.pageSize)
  /-- The history is what it has answered. -/
  replies : h = (start.transport.answers (h.requests q start.profile.pagination.pageSize)).map
    start.profile.readPage
  /-- Every page but the last was to be followed by another. -/
  earlier : ∀ i < h.length, PageHistory.continues (start.searchBudget limit) (h.take i) = true

/-- **A cursor follows a history** after so many calls, if its fields are what the history says. -/
structure PageCursor.Follows (start : Connection) (q : CompiledQuery) (limit : UInt32)
    (h : PageHistory) (n : Nat) (p : PageCursor) (c : Connection) : Prop
    extends Connection.Answered start q limit h c where
  query : p.query = q
  pageSize : p.pageSize = start.profile.pagination.pageSize
  budget : p.budget = start.searchBudget limit
  /-- The next page continues from the last one. -/
  token : h.continues (start.searchBudget limit) = true → p.token = h.token
  seen : p.seen = h.count
  done : p.done = !h.continues (start.searchBudget limit)
  /-- The buffer holds what was not handed out. -/
  buffer : p.buffer = h.entries.drop n
  /-- A search that goes on has given an entry for every call. -/
  live : h.continues (start.searchBudget limit) = true → n ≤ h.entries.length
  /-- An error was given after all entries. -/
  failed : h.failure.isSome = true → h.entries.length < n

section Invariant

variable {start c : Connection} {q : CompiledQuery} {limit : UInt32} {h : PageHistory} {n : Nat}
  {p : PageCursor}

lemma Connection.Answered.fetch (ha : start.Answered q limit h c)
    (hcont : h.continues (start.searchBudget limit) = true)
    (hrequest : p.request = q.page start.profile.pagination.pageSize h.token)
    {page : Except ConnectionError Page}
    (hpage : c.profile.readPage (c.transport.send p.request).1.outcome = page) :
    start.Answered q limit (h ++ [page]) (p.fetch c).2.2 := by
  obtain ⟨hprofile, hpretending, hsent, htransport⟩ :=
    PageCursor.fetch_connection (p := p) ha.pretending
  refine ⟨hprofile.trans ha.profile, hpretending, ?_, ?_, ?_, ?_⟩
  · rw [hsent, ha.sent, PageHistory.requests_concat, hrequest, List.append_assoc]
  · rw [htransport, PageHistory.requests_concat, Transport.after_concat, ha.transport, hrequest]
  · rw [PageHistory.requests_concat, Transport.answers_concat, List.map_append, ← ha.replies,
      List.map_singleton, ← ha.transport, ← hrequest, ← ha.profile, hpage]
  · intro i hi
    rw [List.length_append, List.length_singleton] at hi
    rcases Nat.lt_succ_iff_lt_or_eq.mp hi with hi | rfl
    · rw [List.take_append_of_le_length (Nat.le_of_lt hi)]
      exact ha.earlier i hi
    · rw [List.take_left]
      exact hcont

namespace PageCursor.Follows

/-- A new cursor follows the empty history. -/
lemma initial (hc : start.pretending = false) (q : CompiledQuery) (limit : UInt32) :
    Follows start q limit [] 0 (start.cursor q limit) start where
  profile := rfl
  pretending := hc
  sent := (List.append_nil _).symm
  transport := rfl
  replies := rfl
  earlier := by simp
  query := rfl
  pageSize := rfl
  budget := toNat_max _ _
  token := fun _ => rfl
  seen := rfl
  done := rfl
  buffer := rfl
  live := fun _ => Nat.le_refl _
  failed := by simp [PageHistory.failure]

lemma continues_of_done (hf : Follows start q limit h n p c) (hdone : p.done = false) :
    h.continues (start.searchBudget limit) = true := by
  simpa [hf.done] using hdone

/-- The request of a cursor that goes on. -/
lemma request_eq (hf : Follows start q limit h n p c) (hdone : p.done = false) :
    p.request = q.page start.profile.pagination.pageSize h.token := by
  rw [PageCursor.request, hf.query, hf.pageSize, hf.token (hf.continues_of_done hdone)]

/-- When the buffer of a cursor that goes on is empty, each call so far has given an entry. -/
lemma length_entries (hf : Follows start q limit h n p c) (hbuffer : p.buffer = [])
    (hdone : p.done = false) : h.entries.length = n := by
  have hdrop := hf.buffer
  rw [hbuffer] at hdrop
  exact Nat.le_antisymm (List.drop_eq_nil_iff.mp hdrop.symm) (hf.live (hf.continues_of_done hdone))

/-- A page that is read prolongs the history. -/
lemma fetch_ok (hf : Follows start q limit h n p c) (hbuffer : p.buffer = [])
    (hdone : p.done = false) {page : Page}
    (hpage : c.profile.readPage (c.transport.send p.request).1.outcome = .ok page) :
    Follows start q limit (h ++ [.ok page]) n (p.fetch c).2.1 (p.fetch c).2.2 := by
  have hanswered := hf.toAnswered.fetch (hf.continues_of_done hdone) (hf.request_eq hdone) hpage
  have hlength := hf.length_entries hbuffer hdone
  have hentries : PageHistory.entries (h ++ [.ok page]) = h.entries ++ page.entries := by
    simp [PageHistory.entries, PageHistory.pageEntries]
  rw [(PageCursor.fetch_ok hf.pretending hpage).2]
  exact
    { toAnswered := hanswered
      query := hf.query
      pageSize := hf.pageSize
      budget := hf.budget
      token := fun _ => (PageHistory.token_concat h (.ok page)).symm
      seen := by
        rw [PageHistory.count_append, ← hf.seen]
        rfl
      done := by
        rw [PageHistory.continues_concat_ok, ← hf.seen, ← hf.budget]
        cases htoken : page.token with
        | none => simp [PageCursor.addPage, htoken]
        | some token =>
            rw [Bool.eq_iff_iff]
            simp [PageCursor.addPage, htoken]
      buffer := by
        rw [hentries, ← hlength, List.drop_left]
        simp [PageCursor.addPage, hbuffer]
      live := fun _ => by
        rw [hentries, List.length_append, hlength]
        exact Nat.le_add_right _ _
      failed := by simp [PageHistory.failure] }

/-- An error that is met ends the history. -/
lemma fetch_error (hf : Follows start q limit h n p c) (hbuffer : p.buffer = [])
    (hdone : p.done = false) {e : ConnectionError}
    (hpage : c.profile.readPage (c.transport.send p.request).1.outcome = .error e) :
    Follows start q limit (h ++ [.error e]) (n + 1) (p.fetch c).2.1 (p.fetch c).2.2 := by
  have hanswered := hf.toAnswered.fetch (hf.continues_of_done hdone) (hf.request_eq hdone) hpage
  have hlength := hf.length_entries hbuffer hdone
  have hentries : PageHistory.entries (h ++ [.error e]) = h.entries := by
    simp [PageHistory.entries, PageHistory.pageEntries]
  have hcont : PageHistory.continues (start.searchBudget limit) (h ++ [.error e]) = false := by
    simp [PageHistory.continues]
  obtain ⟨-, k, hstop⟩ := PageCursor.fetch_error hf.pretending hpage
  rw [hstop]
  exact
    { toAnswered := hanswered
      query := hf.query
      pageSize := hf.pageSize
      budget := hf.budget
      token := fun hc => by simp [hcont] at hc
      seen := by
        rw [PageHistory.count_append, ← hf.seen]
        rfl
      done := by rw [hcont]; rfl
      buffer := by
        rw [hentries, List.drop_eq_nil_of_le (by omega)]
        exact hbuffer
      live := fun hc => by simp [hcont] at hc
      failed := fun _ => by
        rw [hentries]
        omega }

/-- **One call** prolongs the history by the pages it reads, and gives the next outcome of the history.
It reads pages only if all entries before were handed out, and only while they are empty. -/
lemma next (hf : Follows start q limit h n p c) :
    ∃ more : PageHistory,
      Follows start q limit (h ++ more) (n + 1) (p.next c).2.1 (p.next c).2.2
        ∧ (p.next c).1 = (PageHistory.outcomes (h ++ more))[n]?
        ∧ (more ≠ [] → h.entries.length = n ∧ h.continues (start.searchBudget limit) = true)
        ∧ ∀ i < more.length, PageHistory.entries (more.take i) = [] := by
  fun_induction PageCursor.next p c generalizing h with
  | case1 p c entry rest hbuffer =>
      have hdrop : h.entries.drop n = entry :: rest := hf.buffer.symm.trans hbuffer
      have hlt : n < h.entries.length := by
        by_contra hge
        rw [List.drop_eq_nil_of_le (Nat.le_of_not_lt hge)] at hdrop
        simp at hdrop
      refine ⟨[], ?_, ?_, by simp, by simp⟩
      · rw [List.append_nil]
        exact
          { hf with
            buffer := by rw [← List.tail_drop, hdrop]; rfl
            live := fun _ => hlt
            failed := fun h => Nat.lt_succ_of_lt (hf.failed h) }
      · have hget : h.entries[n]? = some entry := by
          rw [← Nat.add_zero n, ← List.getElem?_drop, hdrop]
          rfl
        rw [List.append_nil, PageHistory.outcomes_of_lt hlt, hget]
        rfl
  | case2 p c hbuffer hdone =>
      have hlength : h.entries.length ≤ n :=
        List.drop_eq_nil_iff.mp (hf.buffer.symm.trans hbuffer)
      have hcont : h.continues (start.searchBudget limit) = false := by
        simpa [hf.done] using hdone
      refine ⟨[], ?_, ?_, by simp, by simp⟩
      · rw [List.append_nil]
        exact
          { hf with
            buffer := by rw [hbuffer, List.drop_eq_nil_of_le (by omega)]
            live := fun hc => by simp [hcont] at hc
            failed := fun h => Nat.lt_succ_of_lt (hf.failed h) }
      · rw [List.append_nil, eq_comm, List.getElem?_eq_none_iff]
        have hfailed := hf.failed
        cases hfailure : h.failure with
        | none => simpa [PageHistory.outcomes, hfailure] using hlength
        | some e =>
            rw [hfailure] at hfailed
            simpa [PageHistory.outcomes, hfailure] using Nat.succ_le_of_lt (hfailed rfl)
  | case3 p c hbuffer hdone e p' c' hfetch =>
      have hdone : p.done = false := by simpa using hdone
      cases hpage : c.profile.readPage (c.transport.send p.request).1.outcome with
      | ok page =>
          have hnone := (PageCursor.fetch_ok hf.pretending hpage).1
          simp [hfetch] at hnone
      | error e' =>
          have hsome := (PageCursor.fetch_error hf.pretending hpage).1
          have hnext := hf.fetch_error hbuffer hdone hpage
          rw [hfetch] at hsome hnext
          have hlength := hf.length_entries hbuffer hdone
          refine ⟨[.error e'], hnext, ?_, fun _ => ⟨hlength, hf.continues_of_done hdone⟩, ?_⟩
          · rw [← hlength, PageHistory.outcomes]
            simp_all [PageHistory.entries, PageHistory.pageEntries, PageHistory.failure]
          · intro i hi
            rw [List.length_singleton, Nat.lt_one_iff] at hi
            rw [hi]
            rfl
  | case4 p c hbuffer hdone p' c' hfetch ih =>
      have hdone : p.done = false := by simpa using hdone
      cases hpage : c.profile.readPage (c.transport.send p.request).1.outcome with
      | error e =>
          have hsome := (PageCursor.fetch_error hf.pretending hpage).1
          simp [hfetch] at hsome
      | ok page =>
          have hread := hf.fetch_ok hbuffer hdone hpage
          rw [hfetch] at hread
          obtain ⟨more, hnext, houtcome, hmore, hempty⟩ := ih hread
          have hlength := hf.length_entries hbuffer hdone
          rw [List.append_assoc, List.singleton_append] at hnext houtcome
          refine ⟨.ok page :: more, hnext, houtcome,
            fun _ => ⟨hlength, hf.continues_of_done hdone⟩, ?_⟩
          rintro (- | i) hi
          · rfl
          · -- another page was read behind this one, so this one was empty
            have hi : i < more.length := by simpa using hi
            have hpage_empty : page.entries = [] := by
              have hprolonged := (hmore (List.ne_nil_of_length_pos (by omega))).1
              rw [PageHistory.entries_append, List.length_append, hlength,
                PageHistory.entries_singleton] at hprolonged
              exact List.eq_nil_of_length_eq_zero (by simpa [PageHistory.pageEntries] using hprolonged)
            rw [List.take_succ_cons, ← List.singleton_append, PageHistory.entries_append, hempty i hi,
              PageHistory.entries_singleton]
            simpa [PageHistory.pageEntries] using hpage_empty

end PageCursor.Follows

end Invariant

end DirectorySearch
