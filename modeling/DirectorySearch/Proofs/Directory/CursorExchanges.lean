import DirectorySearch.Proofs.Directory.LogHistory

/-!
# What a cursor hears

A cursor knows the directory only from what comes back for its own requests, be it a reply of the
transport or the empty array of a dry run.  This file writes that down for each call, and shows that
nothing else matters.

* `Connection.answer` — what comes back for a query.
* `PageCursor.absorb` — what a cursor makes of it.  `fetch_absorb`: reading a page does nothing else.
* `PageCursor.asks`, `PageCursor.heard` — the requests of one call and of several, each with what came
  back for it.
* `Connection.Heard` — a connection that was used for some requests: what it sent, what its transport
  gave, what it has logged.
* `Connection.Fed` — a connection whose transport gives some replies, one after the other.
* **`PageCursor.pull_fed`** — a cursor that is fed what it has heard elsewhere does what it has done
  there.
-/

namespace DirectorySearch

/-! ## One request -/

/-- What comes back for a query: the reply of the transport, or in a dry run the empty array. -/
def Connection.answer (c : Connection) (q : CompiledQuery) : Except TransportError Json :=
  if c.pretending then .ok (.array []) else (c.transport.send q).1.outcome

/-- What a cursor makes of an answer: the error if there is one, and the cursor afterwards. -/
def PageCursor.absorb (p : PageCursor) (f : Profile) :
    Except TransportError Json → Option ConnectionError × PageCursor
  | .error e => (some (.transport e), p.stop)
  | .ok reply =>
    match Page.ofReply f.pagination f.layout reply with
    | .error e => (some e, p.countPage.stop)
    | .ok page => (none, p.addPage page)

lemma Connection.run_answer (c : Connection) (q : CompiledQuery) :
    (c.run q).1 = (c.answer q).mapError .transport ∧ (c.run q).2.profile = c.profile := by
  cases hc : c.pretending with
  | true =>
      simp only [run, answer, hc, if_true]
      exact ⟨rfl, rfl⟩
  | false =>
      have hanswer : c.answer q = (c.transport.send q).1.outcome := by
        rw [answer, hc]
        rfl
      cases houtcome : (c.transport.send q).1.outcome with
      | error e =>
          rw [run_eq_error hc houtcome, hanswer, houtcome]
          exact ⟨rfl, rfl⟩
      | ok reply =>
          rw [run_eq_ok hc houtcome, hanswer, houtcome]
          exact ⟨rfl, rfl⟩

/-- **Reading a page is absorbing the answer** to its request. -/
lemma PageCursor.fetch_absorb (p : PageCursor) (c : Connection) :
    ((p.fetch c).1, (p.fetch c).2.1) = p.absorb c.profile (c.answer p.request) := by
  obtain ⟨hanswer, hprofile⟩ := c.run_answer p.request
  rw [fetch]
  cases hreply : c.answer p.request with
  | error e =>
      rw [hreply] at hanswer
      split
      · next e' c' hrun =>
        rw [hrun] at hanswer
        cases hanswer
        rfl
      · next reply c' hrun =>
        rw [hrun] at hanswer
        cases hanswer
  | ok reply =>
      rw [hreply] at hanswer
      split
      · next e' c' hrun =>
        rw [hrun] at hanswer
        cases hanswer
      · next reply' c' hrun =>
        rw [hrun] at hanswer hprofile
        cases hanswer
        have hprofile : c'.profile = c.profile := hprofile
        rw [absorb, ← hprofile]
        cases Page.ofReply c'.profile.pagination c'.profile.layout reply <;> rfl

/-! ## The requests of a call -/

namespace PageCursor

/-- The requests of one call, each with what comes back for it. -/
def asks (p : PageCursor) (c : Connection) : List (CompiledQuery × Except TransportError Json) :=
  match p.buffer with
  | _ :: _ => []
  | [] =>
    if _hd : p.done then []
    else
      (p.request, c.answer p.request) ::
        match _h : p.fetch c with
        | (some _, _, _) => []
        | (none, p', c') => p'.asks c'
termination_by (p.remaining c).1
decreasing_by exact fetch_remaining (by simpa using _hd) _h

lemma asks_of_buffer {p : PageCursor} {entry : Json} {rest : List Json} (h : p.buffer = entry :: rest)
    (c : Connection) : p.asks c = [] := by
  rw [asks]
  split
  · rfl
  · next hnil => simp [h] at hnil

lemma asks_of_done {p : PageCursor} (h : p.buffer = []) (hdone : p.done = true) (c : Connection) :
    p.asks c = [] := by
  rw [asks, h]
  exact dif_pos hdone

/-- A call that reads a page asks for it, and if the page is empty goes on like another call. -/
lemma asks_of_fetch {p p' : PageCursor} {c c' : Connection} {e : Option ConnectionError}
    (h : p.buffer = []) (hdone : ¬ p.done = true) (hfetch : p.fetch c = (e, p', c')) :
    p.asks c = (p.request, c.answer p.request) :: if e.isSome then [] else p'.asks c' := by
  rw [asks, h]
  simp only [hdone, Bool.false_eq_true, dite_false]
  congr 1
  split
  · next hfetch' =>
    rw [hfetch] at hfetch'
    cases hfetch'
    rfl
  · next hfetch' =>
    rw [hfetch] at hfetch'
    cases hfetch'
    rfl

lemma next_of_fetch {p p' : PageCursor} {c c' : Connection} {e : Option ConnectionError}
    (h : p.buffer = []) (hdone : ¬ p.done = true) (hfetch : p.fetch c = (e, p', c')) :
    p.next c = match e with
      | some e => (some (.error e), p', c')
      | none => p'.next c' := by
  rw [next, h]
  simp only [hdone, Bool.false_eq_true, dite_false]
  split
  · next hfetch' =>
    rw [hfetch] at hfetch'
    cases hfetch'
    rfl
  · next hfetch' =>
    rw [hfetch] at hfetch'
    cases hfetch'
    rfl

/-- The requests of so many calls. -/
def heard (p : PageCursor) (c : Connection) :
    Nat → List (CompiledQuery × Except TransportError Json)
  | 0 => []
  | n + 1 => p.asks c ++ (p.next c).2.1.heard (p.next c).2.2 n

end PageCursor

/-! ## The connection that is asked -/

namespace Connection

/-- **A connection that was used for some requests.** -/
structure Heard (c : Connection) (heard : List (CompiledQuery × Except TransportError Json))
    (c' : Connection) : Prop where
  profile : c'.profile = c.profile
  pretending : c'.pretending = c.pretending
  enabled : c'.log.enabled = c.log.enabled
  /-- The requests that were answered are in the log, if it is on. -/
  logged : c'.loggedQueries = c.loggedQueries ++ if c.log.enabled then answered heard else []
  /-- Outside a dry run they were sent, and the transport has answered them. -/
  live : c.pretending = false → c'.sent = c.sent ++ heard.map Prod.fst
    ∧ c'.transport = c.transport.after (heard.map Prod.fst)
    ∧ heard = c.transport.exchanges (heard.map Prod.fst)
  /-- In a dry run nothing was sent, and all answers were the empty array. -/
  dry : c.pretending = true → c'.sent = c.sent ∧ c'.transport = c.transport
    ∧ ∀ exchange ∈ heard, exchange.2 = .ok (.array [])

namespace Heard

variable {c c₁ c₂ : Connection} {heard more : List (CompiledQuery × Except TransportError Json)}

lemma refl (c : Connection) : c.Heard [] c where
  profile := rfl
  pretending := rfl
  enabled := rfl
  logged := by simp [answered]
  live _ := ⟨(List.append_nil _).symm, rfl, rfl⟩
  dry _ := ⟨rfl, rfl, by simp⟩

lemma trans (h₁ : c.Heard heard c₁) (h₂ : c₁.Heard more c₂) : c.Heard (heard ++ more) c₂ where
  profile := h₂.profile.trans h₁.profile
  pretending := h₂.pretending.trans h₁.pretending
  enabled := h₂.enabled.trans h₁.enabled
  logged := by
    rw [h₂.logged, h₁.logged, h₁.enabled, answered_append]
    cases c.log.enabled <;> simp
  live hc := by
    obtain ⟨hsent₁, htransport₁, hheard₁⟩ := h₁.live hc
    obtain ⟨hsent₂, htransport₂, hheard₂⟩ := h₂.live (h₁.pretending.trans hc)
    rw [List.map_append, hsent₂, hsent₁, htransport₂, htransport₁, Transport.after_append,
      Transport.exchanges_append, ← hheard₁, ← htransport₁, ← hheard₂, List.append_assoc]
    exact ⟨rfl, rfl, rfl⟩
  dry hc := by
    obtain ⟨hsent₁, htransport₁, hanswers₁⟩ := h₁.dry hc
    obtain ⟨hsent₂, htransport₂, hanswers₂⟩ := h₂.dry (h₁.pretending.trans hc)
    refine ⟨hsent₂.trans hsent₁, htransport₂.trans htransport₁, fun exchange hmem => ?_⟩
    rcases List.mem_append.mp hmem with hmem | hmem
    · exact hanswers₁ exchange hmem
    · exact hanswers₂ exchange hmem

lemma report (h : c.Heard heard c₁) (events : List Event) :
    c.Heard heard { c₁ with events := events } :=
  ⟨h.profile, h.pretending, h.enabled, h.logged, h.live, h.dry⟩

lemma run (c : Connection) (q : CompiledQuery) : c.Heard [(q, c.answer q)] (c.run q).2 := by
  cases hc : c.pretending with
  | true =>
      have hanswer : c.answer q = .ok (.array []) := if_pos hc
      rw [Connection.run, if_pos hc, hanswer]
      exact
        { profile := rfl
          pretending := rfl
          enabled := QueryLog.record_enabled _ _ _
          logged := loggedQueries_executed c q
          live := fun h => absurd (hc.symm.trans h) (by decide)
          dry := fun _ => ⟨rfl, rfl, by simp⟩ }
  | false =>
      have hanswer : c.answer q = (c.transport.send q).1.outcome := if_neg (by simp [hc])
      have hasked := Asked.run hc q
      have hheard : [(q, c.answer q)] = c.transport.exchanges [q] := by
        rw [hanswer]
        rfl
      exact
        { profile := (c.run_answer q).2
          pretending := hasked.pretending
          enabled := hasked.enabled
          logged := by rw [hheard]; exact hasked.logged
          live := fun _ => ⟨hasked.sent, hasked.transport, hheard⟩
          dry := fun h => absurd (hc.symm.trans h) (by decide) }

lemma fetch (p : PageCursor) (c : Connection) :
    c.Heard [(p.request, c.answer p.request)] (p.fetch c).2.2 := by
  have hrun := run c p.request
  rw [PageCursor.fetch]
  split
  · next e c' h =>
    rw [h] at hrun
    exact hrun.report _
  · next reply c' h =>
    rw [h] at hrun
    split <;> exact hrun.report _

lemma next (p : PageCursor) (c : Connection) : c.Heard (p.asks c) (p.next c).2.2 := by
  fun_induction PageCursor.next p c with
  | case1 p c entry rest hbuffer =>
      rw [PageCursor.asks_of_buffer hbuffer]
      exact refl c
  | case2 p c hbuffer hdone =>
      rw [PageCursor.asks_of_done hbuffer hdone]
      exact refl c
  | case3 p c hbuffer hdone e p' c' hfetch =>
      have hread := fetch p c
      rw [PageCursor.asks_of_fetch hbuffer hdone hfetch]
      rwa [hfetch] at hread
  | case4 p c hbuffer hdone p' c' hfetch ih =>
      have hread := fetch p c
      rw [hfetch] at hread
      rw [PageCursor.asks_of_fetch hbuffer hdone hfetch]
      exact hread.trans ih

/-- **Calls of a cursor** use a connection for the requests that it hears of. -/
theorem pull (p : PageCursor) (c : Connection) (n : Nat) : c.Heard (p.heard c n) (p.pull c n).2.2 := by
  induction n generalizing p c with
  | zero => exact refl c
  | succ n ih => exact (next p c).trans (ih _ _)

end Heard

/-! ## A connection that feeds a cursor -/

/-- A connection with some settings whose transport gives these replies, and no dry run on. -/
structure Fed (f : Profile) (answers : List (Except TransportError Json)) (c : Connection) : Prop where
  profile : c.profile = f
  pretending : c.pretending = false
  replies : c.transport.replies = answers.map fun answer _ => ⟨answer, []⟩

/-- A new connection that is fed some replies. -/
def feeding (f : Profile) (answers : List (Except TransportError Json)) : Connection :=
  { profile := f, transport := { replies := answers.map fun answer _ => ⟨answer, []⟩ } }

lemma fed_feeding (f : Profile) (answers : List (Except TransportError Json)) :
    Fed f answers (feeding f answers) := ⟨rfl, rfl, rfl⟩

lemma Fed.send {f : Profile} {answer : Except TransportError Json}
    {answers : List (Except TransportError Json)} {c : Connection} (h : Fed f (answer :: answers) c)
    (q : CompiledQuery) :
    c.answer q = answer
      ∧ (c.transport.send q).2.replies = answers.map fun answer _ => ⟨answer, []⟩ := by
  have hreplies := h.replies
  rw [List.map_cons] at hreplies
  rw [Connection.answer, h.pretending, if_neg (by decide), Transport.send, hreplies]
  exact ⟨rfl, rfl⟩

end Connection

namespace PageCursor

variable {c l : Connection} {answers : List (Except TransportError Json)}

/-- A page that is read from a connection that feeds the cursor. -/
lemma fetch_of_fed {f : Profile} {answer : Except TransportError Json} (p : PageCursor)
    (h : l.Fed f (answer :: answers)) :
    ((p.fetch l).1, (p.fetch l).2.1) = p.absorb f answer ∧ (p.fetch l).2.2.Fed f answers
      ∧ (p.fetch l).2.2.sent = l.sent ++ [p.request] := by
  obtain ⟨hanswer, hreplies⟩ := h.send p.request
  obtain ⟨hprofile, hpretending, hsent, htransport⟩ := fetch_connection (p := p) h.pretending
  refine ⟨?_, ⟨hprofile.trans h.profile, hpretending, htransport ▸ hreplies⟩, hsent⟩
  rw [fetch_absorb, h.profile, hanswer]

/-- A page that is read from the same reply is the same. -/
lemma fetch_fed (p : PageCursor) (h : l.Fed c.profile (c.answer p.request :: answers)) :
    (p.fetch l).1 = (p.fetch c).1 ∧ (p.fetch l).2.1 = (p.fetch c).2.1
      ∧ (p.fetch l).2.2.Fed c.profile answers
      ∧ (p.fetch l).2.2.sent = l.sent ++ [p.request] := by
  obtain ⟨hsame, hfed⟩ := p.fetch_of_fed h
  rw [← fetch_absorb] at hsame
  obtain ⟨herror, hcursor⟩ := Prod.mk.inj hsame
  exact ⟨herror, hcursor, hfed⟩

/-- A call that hears the same does the same.  The cases are those of the call elsewhere. -/
lemma next_fed (p : PageCursor) (h : l.Fed c.profile ((p.asks c).map Prod.snd ++ answers)) :
    (p.next l).1 = (p.next c).1 ∧ (p.next l).2.1 = (p.next c).2.1
      ∧ (p.next l).2.2.Fed c.profile answers
      ∧ (p.next l).2.2.sent = l.sent ++ (p.asks c).map Prod.fst := by
  fun_induction PageCursor.next p c generalizing l with
  | case1 p c entry rest hbuffer =>
      rw [asks_of_buffer hbuffer] at h ⊢
      rw [next, hbuffer]
      exact ⟨rfl, rfl, h, (List.append_nil _).symm⟩
  | case2 p c hbuffer hdone =>
      rw [asks_of_done hbuffer hdone] at h ⊢
      rw [next, hbuffer, dif_pos hdone]
      exact ⟨rfl, rfl, h, (List.append_nil _).symm⟩
  | case3 p c hbuffer hdone e p' c' hfetch =>
      rw [asks_of_fetch hbuffer hdone hfetch] at h ⊢
      obtain ⟨herror, hcursor, hfed, hsent⟩ := p.fetch_fed h
      rw [hfetch] at herror hcursor
      have hread : p.fetch l = (some e, p', (p.fetch l).2.2) := Prod.ext herror (Prod.ext hcursor rfl)
      rw [next_of_fetch hbuffer hdone hread]
      exact ⟨rfl, rfl, hfed, hsent⟩
  | case4 p c hbuffer hdone p' c' hfetch ih =>
      have hprofile : c'.profile = c.profile := by
        have hheard := Connection.Heard.fetch p c
        rw [hfetch] at hheard
        exact hheard.profile
      rw [asks_of_fetch hbuffer hdone hfetch] at h ⊢
      obtain ⟨herror, hcursor, hfed, hsent⟩ := p.fetch_fed h
      rw [hfetch] at herror hcursor
      have hread : p.fetch l = (none, p', (p.fetch l).2.2) := Prod.ext herror (Prod.ext hcursor rfl)
      rw [← hprofile] at hfed ⊢
      obtain ⟨houtcome, hcursor', hfed', hsent'⟩ := ih hfed
      rw [next_of_fetch hbuffer hdone hread]
      refine ⟨houtcome, hcursor', hfed', ?_⟩
      rw [hsent', hsent]
      simp

lemma pull_next (p : PageCursor) (c : Connection) (n : Nat) :
    p.pull c (n + 1) = ((p.next c).1 :: ((p.next c).2.1.pull (p.next c).2.2 n).1,
      ((p.next c).2.1.pull (p.next c).2.2 n).2) := rfl

lemma pull_add (p : PageCursor) (c : Connection) (m n : Nat) :
    p.pull c (m + n) = ((p.pull c m).1 ++ ((p.pull c m).2.1.pull (p.pull c m).2.2 n).1,
      ((p.pull c m).2.1.pull (p.pull c m).2.2 n).2) := by
  induction m generalizing p c with
  | zero =>
      rw [Nat.zero_add]
      rfl
  | succ m ih => rw [Nat.succ_add, pull_next, ih, pull_next, List.cons_append]

/-- **A cursor that is fed what it has heard elsewhere does what it has done there**, asks for the same,
and uses up what it is fed. -/
theorem pull_fed (p : PageCursor) (n : Nat)
    (h : l.Fed c.profile ((p.heard c n).map Prod.snd ++ answers)) :
    (p.pull l n).1 = (p.pull c n).1 ∧ (p.pull l n).2.1 = (p.pull c n).2.1
      ∧ (p.pull l n).2.2.Fed c.profile answers
      ∧ (p.pull l n).2.2.sent = l.sent ++ (p.heard c n).map Prod.fst := by
  induction n generalizing p c l with
  | zero => exact ⟨rfl, rfl, h, (List.append_nil _).symm⟩
  | succ n ih =>
      have hprofile := (Connection.Heard.next p c).profile
      rw [heard, List.map_append, List.append_assoc] at h
      obtain ⟨houtcome, hcursor, hfed, hsent⟩ := p.next_fed h
      rw [← hprofile] at hfed
      obtain ⟨houtcomes, hcursor', hfed', hsent'⟩ := ih (p.next c).2.1 hfed
      rw [pull_next, pull_next, houtcome, hcursor]
      refine ⟨congrArg ((p.next c).1 :: ·) houtcomes, hcursor', hprofile ▸ hfed', ?_⟩
      rw [hsent', hsent, heard, List.map_append, List.append_assoc]

end PageCursor

end DirectorySearch
