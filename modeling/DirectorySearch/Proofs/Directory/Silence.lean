import DirectorySearch.Proofs.Directory.LogHistory
import DirectorySearch.Proofs.Directory.Traversal

/-!
# Connections that answer with the empty array

A dry run answers every query with the empty array, and so does a directory without entries.  A query
cannot tell the two apart; this file says what it does on either.

* `Page.ofReply_emptyArray` — the page in such an answer has no entries and no token, wherever entries,
  tokens and sizes are looked for.
* `Connection.Silent` — a dry run is on, or the next replies are empty arrays.
* `Connection.Quiet` — what becomes of a silent connection: the queries are logged, and sent unless a
  dry run is on.  `Silent.run` is the one query of which everything else is made.
* `PageCursor.Idle` — a cursor that has nothing to hand out and has read at most one page; on a silent
  connection every cursor stays idle.
* **`Silent.next`** — the first call on an idle cursor reads the one page there is, and gives nothing.
  Further calls do nothing at all (`PageCursor.next_of_done`).
-/

namespace DirectorySearch

/-! ## The empty array -/

lemma EntryLayout.entries_emptyArray (layout : EntryLayout) : layout.entries (.array []) = [] := by
  cases layout with
  | plain => rfl
  | embedded =>
      rw [EntryLayout.entries, Json.pointer?_emptyArray (by decide)]
      rfl

lemma reportedSize_emptyArray (pointer : String) : reportedSize pointer (.array []) = none := by
  unfold reportedSize
  split
  · rfl
  · next h => rw [Json.pointer?_emptyArray h, Option.bind_none]

namespace Page

/-- A page without entries that ends a search. -/
def empty : Page := ⟨none, 0, []⟩

/-- **The page in the empty array**, whatever the pointers are. -/
lemma ofReply_emptyArray (pagination : Pagination) (layout : EntryLayout) :
    ofReply pagination layout (.array []) = .ok empty := by
  simp only [ofReply, PageCursor.continuationToken_emptyArray, reportedSize_emptyArray,
    EntryLayout.entries_emptyArray]
  rfl

end Page

/-! ## Queries -/

/-- How a directory without entries answers. -/
def Exchange.empty : Exchange := fun _ => ⟨.ok (.array []), []⟩

namespace Connection

/-- **The next queries are answered with the empty array**: in a dry run, or by the directory. -/
def Silent (n : Nat) (c : Connection) : Prop :=
  c.pretending = true ∨ List.replicate n Exchange.empty <+: c.transport.replies

/-- What becomes of a silent connection by some queries, after which it is still silent. -/
structure Quiet (c : Connection) (queries : List CompiledQuery) (n : Nat) (c' : Connection) : Prop where
  profile : c'.profile = c.profile
  pretending : c'.pretending = c.pretending
  silent : c'.Silent n
  sent : c'.sent = c.sent ++ if c.pretending then [] else queries
  enabled : c'.log.enabled = c.log.enabled
  logged : c'.loggedQueries = c.loggedQueries ++ if c.log.enabled then queries else []

variable {c : Connection} {n : Nat}

lemma Silent.of_succ (hc : c.Silent (n + 1)) : c.Silent n := by
  rcases hc with hdry | hreplies
  · exact .inl hdry
  · refine .inr (List.IsPrefix.trans ?_ hreplies)
    rw [List.replicate_succ']
    exact List.prefix_append _ _

lemma Quiet.refl (hc : c.Silent n) : c.Quiet [] n c where
  profile := rfl
  pretending := rfl
  silent := hc
  sent := by simp
  enabled := rfl
  logged := by simp

lemma Quiet.report {c' : Connection} {queries : List CompiledQuery} (h : c.Quiet queries n c')
    (events : List Event) : c.Quiet queries n { c' with events := events } :=
  ⟨h.profile, h.pretending, h.silent, h.sent, h.enabled, h.logged⟩

/-- **A query on a silent connection.** -/
lemma Silent.run (hc : c.Silent (n + 1)) (q : CompiledQuery) :
    ∃ c', c.run q = (.ok (.array []), c') ∧ c.Quiet [q] n c' := by
  cases hpretending : c.pretending with
  | true =>
      refine ⟨c.executed q, by rw [Connection.run, if_pos hpretending], ?_⟩
      exact
        { profile := rfl
          pretending := rfl
          silent := .inl hpretending
          sent := by simp [hpretending, executed]
          enabled := QueryLog.record_enabled _ _ _
          logged := loggedQueries_executed c q }
  | false =>
      obtain ⟨rest, hrest⟩ : List.replicate (n + 1) Exchange.empty <+: c.transport.replies :=
        hc.resolve_left (by simp [hpretending])
      rw [List.replicate_succ, List.cons_append] at hrest
      have hsend : c.transport.send q
          = (Exchange.empty q,
              { c.transport with replies := List.replicate n Exchange.empty ++ rest }) := by
        rw [Transport.send, ← hrest]
      have houtcome : (c.transport.send q).1.outcome = .ok (.array []) := by
        rw [hsend]
        rfl
      refine ⟨_, run_eq_ok hpretending houtcome, ?_⟩
      exact
        { profile := rfl
          pretending := rfl
          silent := by
            refine .inr ?_
            show _ <+: (c.transport.send q).2.replies
            rw [hsend]
            exact List.prefix_append _ _
          sent := by simp [hpretending, executed, sending]
          enabled := QueryLog.record_enabled _ _ _
          logged := loggedQueries_executed _ q }

/-- It has no entries. -/
lemma Silent.select (hc : c.Silent (n + 1)) (q : CompiledQuery) :
    ∃ c', c.select q = (.ok [], c') ∧ c.Quiet [q] n c' := by
  obtain ⟨c', hrun, hquiet⟩ := hc.run q
  refine ⟨c', ?_, hquiet⟩
  show ((c.run q).1.map _, (c.run q).2) = _
  rw [hrun]
  exact congrArg (fun entries => (Except.ok entries, c')) (EntryLayout.entries_emptyArray _)

end Connection

/-! ## Cursors -/

namespace PageCursor

/-- A cursor that has nothing to hand out, and has read one page if it is at its end and none if not. -/
structure Idle (p : PageCursor) : Prop where
  buffer : p.buffer = []
  pages : p.pages = if p.done then 1 else 0

/-- The requests that the next call sends to a connection that answers with empty arrays. -/
def asking (p : PageCursor) : List CompiledQuery := if p.done then [] else [p.request]

def asked (p : PageCursor) : PageCursor := if p.done then p else p.addPage .empty

variable {p : PageCursor} {c : Connection} {n : Nat}

lemma idle_cursor (c : Connection) (q : CompiledQuery) (limit : UInt32) : (c.cursor q limit).Idle :=
  ⟨rfl, rfl⟩

@[simp] lemma asked_done (p : PageCursor) : p.asked.done = true := by
  unfold asked
  split
  · assumption
  · rfl

lemma Idle.asked (hp : p.Idle) : p.asked.Idle := by
  unfold PageCursor.asked
  split
  · exact hp
  · next hdone =>
    refine ⟨?_, ?_⟩
    · simp [addPage, Page.empty, hp.buffer]
    · simp [addPage, Page.empty, hp.pages, hdone]

lemma Idle.pages_asked (hp : p.Idle) : p.asked.pages = 1 := by
  rw [hp.asked.pages, asked_done, if_pos rfl]

/-- **A call on an idle cursor** gives nothing, and reads a page if none was read before. -/
lemma Idle.next (hp : p.Idle) (hc : c.Silent (n + 1)) :
    ∃ c', p.next c = (none, p.asked, c') ∧ c.Quiet p.asking n c' := by
  cases hdone : p.done with
  | true =>
      rw [PageCursor.asked, asking, if_pos hdone, if_pos hdone]
      exact ⟨c, next_of_done hp.buffer hdone c, .refl hc.of_succ⟩
  | false =>
      obtain ⟨c₁, hrun, hquiet⟩ := hc.run p.request
      have hfetch : ∃ c', p.fetch c = (none, p.asked, c') ∧ c.Quiet p.asking n c' := by
        rw [fetch, hrun]
        dsimp only
        rw [Page.ofReply_emptyArray, PageCursor.asked, asking, hdone]
        exact ⟨_, rfl, hquiet.report _⟩
      obtain ⟨c', hfetch, hquiet⟩ := hfetch
      refine ⟨c', ?_, hquiet⟩
      have hnext : p.next c = p.asked.next c' := by
        rw [PageCursor.next, hp.buffer]
        dsimp only
        rw [dif_neg (by simp [hdone])]
        split
        · next h => simp [hfetch] at h
        · next h =>
          rw [hfetch] at h
          cases h
          rfl
      rw [hnext, next_of_done hp.asked.buffer p.asked_done]

lemma Idle.pull (hp : p.Idle) (hc : c.Silent (n + 1)) (k : Nat) :
    ∃ c', p.pull c (k + 1) = (List.replicate (k + 1) none, p.asked, c') ∧ c.Quiet p.asking n c' := by
  obtain ⟨c', hnext, hquiet⟩ := hp.next hc
  refine ⟨c', ?_, hquiet⟩
  have hrest := pull_of_none (next_of_done hp.asked.buffer p.asked_done c') k
  rw [PageCursor.pull, hnext]
  dsimp only
  rw [hrest]
  rfl

lemma Idle.take (hp : p.Idle) (hc : c.Silent (n + 1)) (k : Nat) :
    ∃ c', p.take c (k + 1) = ([], p.asked, c') ∧ c.Quiet p.asking n c' := by
  obtain ⟨c', hnext, hquiet⟩ := hp.next hc
  exact ⟨c', by rw [PageCursor.take, hnext], hquiet⟩

lemma Idle.drain (hp : p.Idle) (hc : c.Silent (n + 1)) :
    ∃ c', p.drain c = ([], p.asked, c') ∧ c.Quiet p.asking n c' := by
  obtain ⟨c', hnext, hquiet⟩ := hp.next hc
  refine ⟨c', ?_, hquiet⟩
  rw [PageCursor.drain]
  split
  · next h =>
    rw [hnext] at h
    cases h
    rfl
  · next h => simp [hnext] at h

lemma Idle.collect (hp : p.Idle) (hc : c.Silent (n + 1)) :
    ∃ c', p.collect c = (.ok [], p.asked, c') ∧ c.Quiet p.asking n c' := by
  obtain ⟨c', hnext, hquiet⟩ := hp.next hc
  refine ⟨c', ?_, hquiet⟩
  rw [PageCursor.collect]
  split
  · next h =>
    rw [hnext] at h
    cases h
    rfl
  · next h => simp [hnext] at h
  · next h => simp [hnext] at h

end PageCursor

end DirectorySearch
