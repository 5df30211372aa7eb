import DirectorySearch.Directory.Connection

/-!
# Reading a search page by page

A cursor reads a search one page at a time and hands out one entry at a time.  It asks for a page only
when an entry is wanted and none is left of the page before.  It comes to an end when a page names no
continuation token, when it has seen more entries than its budget, or after an error.

* `PageCursor` — the cursor; `Connection.cursor` and `QueryBuilder.cursor` open one.
* `Page.ofReply` — what a reply says: its entries, how many there are, and the token that continues.
* `PageCursor.fetch` — one page read.
* **`PageCursor.next`** — the next entry, after as many pages as it takes.
* `PageCursor.pull`, `PageCursor.drain`, `PageCursor.collect` — several entries, all outcomes, and all
  entries unless there is an error.

A page without entries that names a token is followed by another page, so one call may read many.  It
comes to an end because the transport has finitely many replies and neither a dry run nor a transport
that has run dry ever names a token: `fetch_remaining` is that argument.
-/

namespace DirectorySearch

/-! ## What a reply says -/

/-- The token that continues a search after a reply.  Numbers and truth values are taken as their text;
null and a missing value end the search, as does an empty pointer. -/
def continuationToken (pointer : String) (reply : Json) : Except ConnectionError (Option String) :=
  if pointer = "" then .ok none
  else
    match reply.pointer? pointer with
    | none => .ok none
    | some .null => .ok none
    | some (.string token) => .ok (some token)
    | some (.bool b) => .ok (some (Json.bool b).text)
    | some (.integer n) => .ok (some (Json.integer n).text)
    | some (.float x) => .ok (some (Json.float x).text)
    | some other => .error (.tokenNotScalar pointer other)

/-- The number of entries that a reply reports, if it reports one. -/
def reportedSize (pointer : String) (reply : Json) : Option Nat :=
  if pointer = "" then none else (reply.pointer? pointer).bind Json.natural?

/-- What a page brings. -/
structure Page where
  /-- The token that continues the search. -/
  token : Option String
  /-- How many entries count as seen. -/
  size : Nat
  /-- The entries. -/
  entries : List Json

namespace Page

/-- The page that a reply holds. -/
def ofReply (pagination : Pagination) (layout : EntryLayout) (reply : Json) :
    Except ConnectionError Page :=
  match continuationToken pagination.cursorPointer reply with
  | .error e => .error e
  | .ok token =>
    let entries := layout.entries reply
    .ok ⟨token, (reportedSize pagination.sizePointer reply).getD entries.length, entries⟩

end Page

/-! ## Cursors -/

/-- A search that is read page by page. -/
structure PageCursor where
  /-- The query; only its page changes. -/
  query : CompiledQuery
  /-- Entries asked for in one page. -/
  pageSize : UInt32
  /-- How many entries may be seen before no further page is asked for. -/
  budget : Nat
  /-- The token that continues the search. -/
  token : Option String := none
  /-- How many entries were seen. -/
  seen : Nat := 0
  /-- How many pages were read. -/
  pages : Nat := 0
  /-- The entries of the last page that were not handed out yet. -/
  buffer : List Json := []
  /-- Whether no further page is asked for. -/
  done : Bool := false

/-- A cursor over everything that matches a query.  Its budget is the limit, but at least a page. -/
def Connection.cursor (c : Connection) (q : CompiledQuery) (limit : UInt32) : PageCursor :=
  { query := q
    pageSize := c.profile.pagination.pageSize
    budget := (max c.profile.pagination.pageSize limit).toNat }

/-- A cursor over everything that matches a query under construction. -/
def QueryBuilder.cursor (b : QueryBuilder) (c : Connection) : PageCursor := c.cursor b.compile b.limit

namespace PageCursor

/-- The query for the next page. -/
def request (p : PageCursor) : CompiledQuery := p.query.page p.pageSize p.token

/-- The cursor after an error: it is at its end. -/
def stop (p : PageCursor) : PageCursor := { p with done := true }

/-- The cursor after a page whose token is no scalar, which counts as read. -/
def countPage (p : PageCursor) : PageCursor := { p with pages := p.pages + 1 }

/-- The cursor after a page. -/
def addPage (p : PageCursor) (page : Page) : PageCursor :=
  let seen := p.seen + page.size
  { p with
    token := page.token
    seen
    pages := p.pages + 1
    buffer := p.buffer ++ page.entries
    done := page.token.isNone || p.budget < seen }

/-- What is reported of a page, given the cursor afterwards. -/
def pageEvents (p : PageCursor) (connection : String) (entries : Nat) : List Event :=
  .pageFetched connection p.pages entries p.seen p.budget p.token.isSome ::
    if p.done then [.cursorFinished connection p.pages p.token.isNone] else []

/-- What is reported of an error. -/
def stopEvent (p : PageCursor) (connection : String) (e : ConnectionError) : Event :=
  .cursorStopped connection p.pages e.message

/-- **Reads one page.**  Gives the error, if there is one. -/
def fetch (p : PageCursor) (c : Connection) : Option ConnectionError × PageCursor × Connection :=
  match c.run p.request with
  | (.error e, c) => (some e, p.stop, c.note (p.stopEvent c.profile.name e))
  | (.ok reply, c) =>
    match Page.ofReply c.profile.pagination c.profile.layout reply with
    | .error e =>
      (some e, p.countPage.stop, c.note (p.countPage.stopEvent c.profile.name e))
    | .ok page =>
      let p := p.addPage page
      (none, p, { c with events := c.events ++ p.pageEvents c.profile.name page.entries.length })

/-! ## Reading comes to an end -/

/-- What is still to come: the replies that may be asked for, and one for the reply after the last;
then the entries that were not handed out. -/
def remaining (p : PageCursor) (c : Connection) : Nat × Nat :=
  (if p.done then 0 else c.transport.replies.length + 1, p.buffer.length)

/-- An empty array holds no continuation token. -/
theorem continuationToken_emptyArray (pointer : String) :
    continuationToken pointer (.array []) = .ok none := by
  unfold continuationToken
  split
  · rfl
  · next h => rw [Json.pointer?_emptyArray h]

/-- The value null holds no continuation token. -/
theorem continuationToken_null (pointer : String) :
    continuationToken pointer .null = .ok none := by
  unfold continuationToken
  split
  · rfl
  · next h => rw [Json.pointer?_null h]

theorem ofReply_token_none {pagination : Pagination} {layout : EntryLayout} {reply : Json}
    {page : Page} (h : Page.ofReply pagination layout reply = .ok page)
    (ht : continuationToken pagination.cursorPointer reply = .ok none) : page.token = none := by
  simp only [Page.ofReply, ht, Except.ok.injEq] at h
  rw [← h]

/-- A query that is answered either takes a reply from the transport or is answered with a value that
holds no continuation token. -/
theorem run_ok {c c' : Connection} {q : CompiledQuery} {reply : Json}
    (h : c.run q = (.ok reply, c')) :
    c'.transport.replies.length + 1 = c.transport.replies.length ∨
      ∀ pointer, continuationToken pointer reply = .ok none := by
  unfold Connection.run at h
  split at h
  · simp only [Prod.mk.injEq, Except.ok.injEq] at h
    exact .inr fun pointer => h.1 ▸ continuationToken_emptyArray pointer
  · simp only [Connection.sending, Transport.send] at h
    cases hr : c.transport.replies with
    | cons exchange rest =>
      simp only [hr] at h
      split at h
      · simp only [Prod.mk.injEq] at h
        rw [← h.2]
        exact .inl rfl
      · simp at h
    | nil =>
      simp only [hr] at h
      split at h
      · next answer hanswer =>
        simp only [Prod.mk.injEq, Except.ok.injEq] at h
        refine .inr fun pointer => ?_
        have : answer = .null := by
          simp only [Reply.map] at hanswer
          cases ho : (c.transport.closing q).outcome with
          | error e => simp [ho, Except.map] at hanswer
          | ok u =>
            simp only [ho, Except.map, Except.ok.injEq] at hanswer
            exact hanswer.symm
        rw [← h.1, this]
        exact continuationToken_null pointer
      · simp at h

/-- **A page read brings the end nearer**: either a reply less is to come, or the cursor is at its end. -/
theorem fetch_remaining {p p' : PageCursor} {c c' : Connection} (hd : p.done = false)
    (h : p.fetch c = (none, p', c')) : (p'.remaining c').1 < (p.remaining c).1 := by
  unfold fetch at h
  split at h
  · simp at h
  · next reply c₁ hrun =>
    split at h
    · simp at h
    · next page hpage =>
      simp only [Prod.mk.injEq, true_and] at h
      obtain ⟨rfl, rfl⟩ := h
      simp only [remaining, hd]
      rcases run_ok hrun with hlen | hnone
      · split
        · simp
        · simp
          omega
      · have : page.token = none := ofReply_token_none hpage (hnone _)
        simp [addPage, this]

/-! ## Entries one by one -/

/-- **The next entry, or the error that ends the search, or nothing at its end.** -/
def next (p : PageCursor) (c : Connection) :
    Option (Except ConnectionError Json) × PageCursor × Connection :=
  match p.buffer with
  | entry :: rest => (some (.ok entry), { p with buffer := rest }, c)
  | [] =>
    if _hd : p.done then (none, p, c)
    else
      match _h : p.fetch c with
      | (some e, p, c) => (some (.error e), p, c)
      | (none, p', c') => p'.next c'
termination_by (p.remaining c).1
decreasing_by exact fetch_remaining (by simpa using _hd) _h

/-- An outcome brings the end nearer. -/
theorem next_remaining {p p' : PageCursor} {c c' : Connection} {o : Except ConnectionError Json}
    (h : p.next c = (some o, p', c')) :
    Prod.Lex (· < ·) (· < ·) (p'.remaining c') (p.remaining c) := by
  fun_induction next p c generalizing p' c' with
  | case1 p c entry rest hb =>
    simp only [Prod.mk.injEq] at h
    obtain ⟨-, rfl, rfl⟩ := h
    simp only [remaining, hb]
    exact .right _ (by simp)
  | case2 => simp at h
  | case3 p c hb hd e p₁ c₁ hf =>
    simp only [Prod.mk.injEq] at h
    obtain ⟨-, rfl, rfl⟩ := h
    have hdone : p₁.done = true := by
      unfold fetch at hf
      split at hf
      · simp only [Prod.mk.injEq] at hf
        rw [← hf.2.1]
        rfl
      · split at hf
        · simp only [Prod.mk.injEq] at hf
          rw [← hf.2.1]
          rfl
        · simp at hf
    simp only [remaining, hdone]
    exact .left _ _ (by simp [hd])
  | case4 p c hb hd p₁ c₁ hf ih =>
    have hlt := fetch_remaining (by simpa using hd) hf
    cases hr : p.remaining c with
    | mk a b =>
      cases hr₁ : p₁.remaining c₁ with
      | mk a₁ b₁ =>
        cases hr₂ : p'.remaining c' with
        | mk a₂ b₂ =>
          rw [hr, hr₁] at hlt
          have ih := ih h
          rw [hr₁, hr₂] at ih
          refine .left _ _ ?_
          cases ih with
          | left _ _ h₂ => exact Nat.lt_trans h₂ hlt
          | right _ h₂ => exact hlt

/-- The outcomes of so many calls; a call at the end gives nothing. -/
def pull (p : PageCursor) (c : Connection) :
    Nat → List (Option (Except ConnectionError Json)) × PageCursor × Connection
  | 0 => ([], p, c)
  | n + 1 =>
    let (o, p, c) := p.next c
    let (os, p, c) := p.pull c n
    (o :: os, p, c)

/-- The outcomes of at most so many calls, up to the end. -/
def take (p : PageCursor) (c : Connection) :
    Nat → List (Except ConnectionError Json) × PageCursor × Connection
  | 0 => ([], p, c)
  | n + 1 =>
    match p.next c with
    | (none, p, c) => ([], p, c)
    | (some o, p, c) =>
      let (os, p, c) := p.take c n
      (o :: os, p, c)

/-- All outcomes up to the end. -/
def drain (p : PageCursor) (c : Connection) :
    List (Except ConnectionError Json) × PageCursor × Connection :=
  match _h : p.next c with
  | (none, p, c) => ([], p, c)
  | (some o, p', c') =>
    let (os, p, c) := p'.drain c'
    (o :: os, p, c)
termination_by p.remaining c
decreasing_by exact next_remaining _h

/-- All entries up to the end, or the first error. -/
def collect (p : PageCursor) (c : Connection) :
    Except ConnectionError (List Json) × PageCursor × Connection :=
  match _h : p.next c with
  | (none, p, c) => (.ok [], p, c)
  | (some (.error e), p, c) => (.error e, p, c)
  | (some (.ok entry), p', c') =>
    let (rest, p, c) := p'.collect c'
    (rest.map (entry :: ·), p, c)
termination_by p.remaining c
decreasing_by exact next_remaining _h

end PageCursor

end DirectorySearch
