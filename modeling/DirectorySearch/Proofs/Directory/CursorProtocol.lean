import DirectorySearch.Proofs.Directory.CursorHistory

/-!
# The cursor protocol

What any number of calls on a new cursor send and give, told from the pages that come back.

* `Connection.pullOutcomes`, `pullRequests`, `pullHistory` — what so many calls give, what they send,
  and the pages that come back.
* `Follows.pull` — after any number of calls, a cursor follows its history.
* **`cursor_protocol`** — the requests are those of the history, a request is sent on demand and exactly
  if the pages before it go on, and the outcomes are the entries in order, the error, and then nothing.
-/

namespace DirectorySearch

/-! ## Any number of calls -/

/-- The entries among the outcomes of some calls. -/
def handedOut (outcomes : List (Option (Except ConnectionError Json))) : List Json :=
  outcomes.filterMap fun
    | some (.ok entry) => some entry
    | _ => none

namespace Connection

/-- The outcomes of so many calls on a new cursor. -/
def pullOutcomes (c : Connection) (q : CompiledQuery) (limit : UInt32) (n : Nat) :
    List (Option (Except ConnectionError Json)) :=
  ((c.cursor q limit).pull c n).1

/-- The requests that so many calls on a new cursor send. -/
def pullRequests (c : Connection) (q : CompiledQuery) (limit : UInt32) (n : Nat) :
    List CompiledQuery :=
  ((c.cursor q limit).pull c n).2.2.sent.drop c.sent.length

/-- The pages that come back for them. -/
def pullHistory (c : Connection) (q : CompiledQuery) (limit : UInt32) (n : Nat) : PageHistory :=
  (c.transport.answers (c.pullRequests q limit n)).map c.profile.readPage

end Connection

lemma PageCursor.pull_succ (p : PageCursor) (c : Connection) (n : Nat) :
    p.pull c (n + 1)
      = ((p.pull c n).1 ++ [((p.pull c n).2.1.next (p.pull c n).2.2).1],
          ((p.pull c n).2.1.next (p.pull c n).2.2).2) := by
  induction n generalizing p c with
  | zero => rfl
  | succ n ih =>
      show ((p.next c).1 :: ((p.next c).2.1.pull (p.next c).2.2 (n + 1)).1,
        ((p.next c).2.1.pull (p.next c).2.2 (n + 1)).2) = _
      rw [ih]
      rfl

/-- The entries that the first calls hand out are the first entries. -/
lemma handedOut_outcomes (h : PageHistory) (n : Nat) :
    handedOut ((List.range n).map fun k => h.outcomes[k]?) = h.entries.take n := by
  induction n with
  | zero => rfl
  | succ n ih =>
      rw [List.range_succ, List.map_append, handedOut, List.filterMap_append, ← handedOut, ih,
        List.take_add_one]
      congr 1
      rcases Nat.lt_or_ge n h.entries.length with hn | hn
      · simp [PageHistory.outcomes_of_lt hn, hn]
      · have hget : h.outcomes[n]? = (h.failure.toList.map Except.error)[n - h.entries.length]? := by
          rw [PageHistory.outcomes, List.getElem?_append_right (by simpa using hn)]
          simp
        rw [List.getElem?_eq_none hn, List.map_singleton, hget]
        cases hfailure : h.failure with
        | none => simp
        | some e => cases n - h.entries.length <;> simp

/-- After any number of calls, a new cursor follows a history and has given its first outcomes. -/
lemma PageCursor.Follows.pull {c : Connection} (hc : c.pretending = false) (q : CompiledQuery)
    (limit : UInt32) (n : Nat) :
    ∃ h : PageHistory,
      Follows c q limit h n ((c.cursor q limit).pull c n).2.1 ((c.cursor q limit).pull c n).2.2
        ∧ c.pullOutcomes q limit n = (List.range n).map fun k => h.outcomes[k]? := by
  induction n with
  | zero => exact ⟨[], initial hc q limit, rfl⟩
  | succ n ih =>
      obtain ⟨h, hf, houtcomes⟩ := ih
      obtain ⟨more, hnext, houtcome, hmore, -⟩ := hf.next
      refine ⟨h ++ more, ?_, ?_⟩
      · rw [pull_succ]
        exact hnext
      · rw [Connection.pullOutcomes, pull_succ]
        show c.pullOutcomes q limit n ++ [_] = _
        rw [houtcome, houtcomes, List.range_succ, List.map_append, List.map_singleton]
        congr 1
        refine List.map_congr_left fun k hk => ?_
        by_cases hnil : more = []
        · rw [hnil, List.append_nil]
        · have hk : k < h.entries.length := by
            rw [(hmore hnil).1]
            exact List.mem_range.mp hk
          have hk' : k < (PageHistory.entries (h ++ more)).length := by
            rw [PageHistory.entries_append, List.length_append]
            exact Nat.lt_add_right _ hk
          rw [PageHistory.outcomes_of_lt hk, PageHistory.outcomes_of_lt hk',
            PageHistory.entries_append, List.getElem?_append_left hk]

namespace PageCursor.Follows

variable {c : Connection} {q : CompiledQuery} {limit : UInt32} {h : PageHistory} {n m : Nat}

lemma pullRequests_eq
    (hf : Follows c q limit h n ((c.cursor q limit).pull c m).2.1
      ((c.cursor q limit).pull c m).2.2) :
    c.pullRequests q limit m = h.requests q c.profile.pagination.pageSize := by
  rw [Connection.pullRequests, hf.sent, List.drop_left]

lemma pullHistory_eq
    (hf : Follows c q limit h n ((c.cursor q limit).pull c m).2.1
      ((c.cursor q limit).pull c m).2.2) :
    c.pullHistory q limit m = h := by
  rw [Connection.pullHistory, hf.pullRequests_eq, ← hf.replies]

end PageCursor.Follows

/-! ## The protocol -/

/-- **What the calls on a new cursor do**, told from the pages that come back. -/
structure CursorProtocol (c : Connection) (q : CompiledQuery) (limit : UInt32) (n : Nat) : Prop where
  /-- Requests are only ever added to what was sent. -/
  sent : ((c.cursor q limit).pull c n).2.2.sent = c.sent ++ c.pullRequests q limit n
  /-- A further call adds its requests behind those of the calls before. -/
  prolonged : c.pullRequests q limit n <+: c.pullRequests q limit (n + 1)
  /-- Each request is the query for one page, continuing with the token of the page before. -/
  requests : c.pullRequests q limit n
    = (c.pullHistory q limit n).requests q c.profile.pagination.pageSize
  /-- A call sends a request only when all entries of the pages before were handed out. -/
  on_demand : ∀ i, (c.pullRequests q limit n).length ≤ i →
    i < (c.pullRequests q limit (n + 1)).length →
      handedOut (c.pullOutcomes q limit n)
        = PageHistory.entries ((c.pullHistory q limit (n + 1)).take i)
  /-- When all entries of some pages were handed out, the next call asks for another page exactly if
  these pages go on. -/
  asked_iff : ∀ i ≤ (c.pullRequests q limit (n + 1)).length,
    handedOut (c.pullOutcomes q limit n)
        = PageHistory.entries ((c.pullHistory q limit (n + 1)).take i) →
      (i < (c.pullRequests q limit (n + 1)).length ↔
        PageHistory.continues (c.searchBudget limit) ((c.pullHistory q limit (n + 1)).take i) = true)
  /-- The calls give the entries in order, then the error that ended the search, then nothing. -/
  outcomes : c.pullOutcomes q limit n
    = (List.range n).map fun k => (c.pullHistory q limit n).outcomes[k]?

/-- **The cursor protocol.**  Outside a dry run, any number of calls on a new cursor do what its replies
say. -/
theorem cursor_protocol {c : Connection} (hc : c.pretending = false) (q : CompiledQuery)
    (limit : UInt32) (n : Nat) : CursorProtocol c q limit n := by
  obtain ⟨h, hf, houtcomes⟩ := PageCursor.Follows.pull hc q limit n
  obtain ⟨more, hnext, -, hmore, hempty⟩ := hf.next
  have hnext : PageCursor.Follows c q limit (h ++ more) (n + 1)
      ((c.cursor q limit).pull c (n + 1)).2.1 ((c.cursor q limit).pull c (n + 1)).2.2 := by
    rw [PageCursor.pull_succ]
    exact hnext
  have hrequests := hf.pullRequests_eq
  have hrequests' := hnext.pullRequests_eq
  have hhanded : handedOut (c.pullOutcomes q limit n) = h.entries.take n := by
    rw [houtcomes, handedOut_outcomes]
  exact
    { sent := by rw [hrequests, hf.sent]
      prolonged := by
        rw [hrequests, hrequests']
        exact PageHistory.requests_prefix _ _ h more
      requests := by rw [hf.pullHistory_eq, hrequests]
      on_demand := by
        intro i hlow hhigh
        rw [hrequests, PageHistory.length_requests] at hlow
        rw [hrequests', PageHistory.length_requests, List.length_append] at hhigh
        obtain ⟨j, rfl⟩ : ∃ j, i = h.length + j := ⟨i - h.length, by omega⟩
        have hlength := (hmore (List.ne_nil_of_length_pos (by omega))).1
        rw [hhanded, hnext.pullHistory_eq, List.take_length_add_append, PageHistory.entries_append,
          hempty j (by omega), List.append_nil, ← hlength, List.take_length]
      asked_iff := by
        intro i hi hentries
        rw [hrequests', PageHistory.length_requests] at hi ⊢
        rw [hnext.pullHistory_eq] at hentries ⊢
        rcases Nat.lt_or_eq_of_le hi with hi | rfl
        · exact ⟨fun _ => hnext.earlier i hi, fun _ => hi⟩
        · rw [List.take_length] at hentries ⊢
          refine ⟨fun h => absurd h (Nat.lt_irrefl _), fun hcont => ?_⟩
          -- the call has given an entry that was not handed out before
          have hlive := hnext.live hcont
          rw [← hentries, hhanded, List.length_take] at hlive
          omega
      outcomes := by rw [hf.pullHistory_eq, houtcomes] }

/-- Five calls on a directory that gives an empty page, a page of one entry and an error. -/
theorem cursor_protocol_error :
    let page : List (String × Json) → Exchange := fun members _ =>
      ⟨.ok (.object (("cursor", .string "X") :: members)), []⟩
    let c : Connection :=
      { profile := .ofProvider "" .pingDirectory ⟨100, "/cursor", "/size"⟩
        transport :=
          { replies :=
              [page [], page [("_embedded", .object [("entries", .array [.null])])],
                fun _ => ⟨.error (.status 503 ""), []⟩] } }
    CursorProtocol c { filter := "uid pr", includeAttributes := "*" } 7 5 :=
  cursor_protocol rfl _ _ _

end DirectorySearch
