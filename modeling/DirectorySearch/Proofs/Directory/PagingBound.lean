import DirectorySearch.Proofs.Directory.CursorEnd
import DirectorySearch.Proofs.Directory.Silence
import Mathlib.Data.Set.Finite.Lattice

/-!
# How many requests a cursor sends

A cursor stops asking when it has seen more entries than its budget, but a reply that counts for no
entries brings it no nearer to that.  This file bounds the requests by the budget and the number of such
replies.

* `Profile.isUncounted` — a reply that counts for nothing: it reports the size 0, or no size and has no
  entries.
* `PageHistory.length_le_budget` — pages that are all followed by another are no more than the budget
  and the uncounted ones among them.
* `Connection.facing` — the first replies of a directory that never runs out of them.
* `pullRequests_facing_le` — if only finitely many of those are uncounted, the requests of any number
  of calls stay below a bound that does not depend on how many replies there are.
* `pull_facing` — so what the calls do does not depend on it either.
* **`paging_bounded`** — the bound, the end of every search, and why uncounted replies stand in the
  bound.

A directory that never runs out of replies is told by longer and longer beginnings.  A search against it
ends if some beginning is long enough: with more replies at hand, the same ones are asked for.
-/

namespace DirectorySearch

/-! ## Replies that count for nothing -/

/-- How many entries of a reply count as seen: the number it reports, or else the number it holds. -/
def Profile.replyCount (f : Profile) (reply : Json) : Nat :=
  (reportedSize f.pagination.sizePointer reply).getD (f.layout.entries reply).length

/-- Whether a reply counts for no entries. -/
def Profile.isUncounted (f : Profile) : Except TransportError Json → Bool
  | .ok reply => f.replyCount reply = 0
  | .error _ => false

lemma Profile.size_of_readPage {f : Profile} {answer : Except TransportError Json} {page : Page}
    (h : f.readPage answer = .ok page) : 0 < page.size ∨ f.isUncounted answer = true := by
  cases answer with
  | error e => cases h
  | ok reply =>
      rw [readPage, Page.ofReply] at h
      split at h
      · cases h
      · cases h
        rw [isUncounted, decide_eq_true_eq]
        exact (Nat.eq_zero_or_pos (f.replyCount reply)).symm

namespace PageHistory

variable {f : Profile} {answers : List (Except TransportError Json)} {budget : Nat}

/-- A page that is not uncounted counts for an entry at least. -/
lemma length_le_count (h : ∀ answer ∈ answers, ∃ page, f.readPage answer = .ok page) :
    answers.length ≤ count (answers.map f.readPage) + answers.countP f.isUncounted := by
  induction answers with
  | nil => exact Nat.le_refl _
  | cons answer answers ih =>
      have hrest := ih fun a ha => h a (List.mem_cons_of_mem _ ha)
      obtain ⟨page, hpage⟩ := h answer List.mem_cons_self
      rw [List.map_cons, count, hpage, pageCount, List.length_cons, List.countP_cons]
      rcases Profile.size_of_readPage hpage with hsize | huncounted
      · omega
      · rw [if_pos huncounted]
        omega

lemma count_le_of_continues {h : PageHistory} (hcont : h.continues budget = true) :
    h.count ≤ budget := by
  unfold continues at hcont
  split at hcont
  · next hnone =>
    rw [List.getLast?_eq_none_iff.mp hnone]
    exact Nat.zero_le _
  · rw [Bool.and_eq_true, decide_eq_true_eq] at hcont
    exact hcont.2
  · cases hcont

/-- A page that is followed by another was read without an error. -/
lemma exists_page_of_continues {h : PageHistory}
    (hcont : ∀ i ≤ h.length, continues budget (h.take i) = true) {page : Except ConnectionError Page}
    (hpage : page ∈ h) : ∃ p, page = .ok p := by
  obtain ⟨j, hj, rfl⟩ := List.mem_iff_getElem.mp hpage
  have hnext := hcont (j + 1) hj
  rw [List.take_add_one, List.getElem?_eq_getElem hj] at hnext
  cases hget : h[j] with
  | ok p => exact ⟨p, rfl⟩
  | error e => simp [hget, continues] at hnext

/-- **Pages that are all followed by another** are no more than the budget and the uncounted ones. -/
lemma length_le_budget
    (hcont : ∀ i ≤ answers.length, continues budget ((answers.map f.readPage).take i) = true) :
    answers.length ≤ budget + answers.countP f.isUncounted := by
  have hpages : ∀ answer ∈ answers, ∃ page, f.readPage answer = .ok page := fun answer hanswer =>
    exists_page_of_continues (by simpa using hcont) (List.mem_map_of_mem hanswer)
  have hall := hcont answers.length (Nat.le_refl _)
  rw [List.take_of_length_le (by simp)] at hall
  have hlength := length_le_count hpages
  have hcount := count_le_of_continues hall
  omega

/-- The pages in front of one that was asked for. -/
lemma index_le_budget
    (hcont : ∀ i < answers.length, continues budget ((answers.map f.readPage).take i) = true)
    {j : Nat} (hj : j < answers.length) :
    j ≤ budget + (answers.take j).countP f.isUncounted := by
  have hlength : (answers.take j).length = j := by simp [Nat.le_of_lt hj]
  have hbound : (answers.take j).length ≤ budget + (answers.take j).countP f.isUncounted :=
    length_le_budget fun i hi => by
      rw [hlength] at hi
      rw [List.map_take, List.take_take, Nat.min_eq_left hi]
      exact hcont i (by omega)
  rwa [hlength] at hbound

end PageHistory

/-! ## The bound -/

/-- What comes back for the requests of so many calls on a new cursor. -/
def Connection.pullAnswers (c : Connection) (q : CompiledQuery) (limit : UInt32) (n : Nat) :
    List (Except TransportError Json) :=
  c.transport.answers (c.pullRequests q limit n)

section Bound

variable {c : Connection} {q : CompiledQuery} {limit : UInt32}

lemma Connection.length_pullAnswers (c : Connection) (q : CompiledQuery) (limit : UInt32) (n : Nat) :
    (c.pullAnswers q limit n).length = (c.pullRequests q limit n).length :=
  c.transport.length_answers _

/-- Each request is sent because the pages before it go on. -/
lemma Connection.pullAnswers_continues (hc : c.pretending = false) (q : CompiledQuery)
    (limit : UInt32) (n : Nat) :
    ∀ i < (c.pullAnswers q limit n).length,
      PageHistory.continues (c.searchBudget limit)
        (((c.pullAnswers q limit n).map c.profile.readPage).take i) = true := by
  obtain ⟨h, hf, -⟩ := PageCursor.Follows.pull hc q limit n
  have hpages : (c.pullAnswers q limit n).map c.profile.readPage = h := hf.pullHistory_eq
  intro i hi
  rw [hpages]
  refine hf.earlier i ?_
  rwa [← hpages, List.length_map]

/-- In a dry run a cursor sends nothing. -/
lemma Connection.pullRequests_pretending (hc : c.pretending = true) (q : CompiledQuery)
    (limit : UInt32) (n : Nat) : c.pullRequests q limit n = [] := by
  have hheard := Heard.pull (c.cursor q limit) c n
  rw [pullRequests, (hheard.dry hc).1, List.drop_length]

lemma Connection.pullRequests_le (c : Connection) (q : CompiledQuery) (limit : UInt32) (n : Nat) :
    (c.pullRequests q limit n).length
      ≤ c.searchBudget limit + 1 + (c.pullAnswers q limit n).countP c.profile.isUncounted := by
  cases hc : c.pretending with
  | true =>
      rw [pullRequests_pretending hc]
      exact Nat.zero_le _
  | false =>
      rw [← length_pullAnswers]
      have hcont := pullAnswers_continues hc q limit n
      generalize c.pullAnswers q limit n = answers at hcont ⊢
      rcases Nat.eq_zero_or_pos answers.length with hzero | hpos
      · rw [hzero]
        exact Nat.zero_le _
      · have hlast := PageHistory.index_le_budget hcont (Nat.sub_lt hpos Nat.one_pos)
        have hsub := (List.take_sublist (answers.length - 1) answers).countP_le
          (p := c.profile.isUncounted)
        omega

end Bound

/-! ## A directory that never runs out of replies -/

/-- What is given back for the first queries is what the transport holds for them. -/
lemma Transport.answers_take {t : Transport} {answers : List (Except TransportError Json)}
    (h : t.replies = answers.map fun answer _ => ⟨answer, []⟩) (queries : List CompiledQuery) :
    (t.answers queries).take answers.length = answers.take queries.length := by
  induction answers generalizing t queries with
  | nil => simp
  | cons answer answers ih =>
      cases queries with
      | nil => simp [Transport.answers]
      | cons q queries =>
          rw [List.map_cons] at h
          have hsend : t.send q = (⟨answer, []⟩, { t with
              replies := answers.map fun answer _ => ⟨answer, []⟩ }) := by
            rw [Transport.send, h]
          rw [Transport.answers, hsend]
          simp only [List.length_cons, List.take_succ_cons, ih]

/-- A connection to a directory that never runs out of replies, with the first of them at hand. -/
def Connection.facing (f : Profile) (replies : Nat → Except TransportError Json) (k : Nat) :
    Connection :=
  .feeding f ((List.range k).map replies)

section Facing

variable {f : Profile} {replies : Nat → Except TransportError Json} {q : CompiledQuery}
  {limit : UInt32} {last k : Nat}

/-- As long as replies are at hand, they are given in order. -/
lemma Connection.answers_facing (f : Profile) (replies : Nat → Except TransportError Json) (k : Nat)
    (queries : List CompiledQuery) :
    ((facing f replies k).transport.answers queries).take k
      = (List.range (min queries.length k)).map replies := by
  have htake := Transport.answers_take
    (show (facing f replies k).transport.replies = _ from (fed_feeding f _).replies) queries
  rwa [List.length_map, List.length_range, ← List.map_take, List.take_range] at htake

lemma countP_range_le {p : Nat → Bool} (hp : ∀ i, p i = true → i < last) (j : Nat) :
    (List.range j).countP p ≤ last := by
  have hsub : (List.range j).filter p ⊆ List.range last := fun i hi =>
    List.mem_range.mpr (hp i (List.mem_filter.mp hi).2)
  have hnodup : ((List.range j).filter p).Nodup := List.nodup_range.filter _
  have hlength := (hnodup.subperm hsub).length_le
  rwa [List.length_range, ← List.countP_eq_length_filter] at hlength

/-- A reply that is asked for comes no later than the budget and the uncounted replies before it say. -/
lemma Connection.index_le_of_asked {n j : Nat} (hjk : j ≤ k)
    (hj : j < ((facing f replies k).pullRequests q limit n).length) :
    j ≤ max f.pagination.pageSize.toNat limit.toNat
      + (List.range j).countP (f.isUncounted ∘ replies) := by
  have hcont := pullAnswers_continues (c := facing f replies k) rfl q limit n
  have hbound := PageHistory.index_le_budget hcont (j := j) (by rwa [length_pullAnswers])
  have hfirst : ((facing f replies k).pullAnswers q limit n).take j = (List.range j).map replies := by
    rw [← Nat.min_eq_left hjk, ← List.take_take, pullAnswers, answers_facing, ← List.map_take,
      List.take_range]
    congr 2
    omega
  rwa [hfirst, List.countP_map] at hbound

/-- **The bound does not depend on how many replies are at hand**, if the uncounted ones come
to an end. -/
lemma Connection.pullRequests_facing_le
    (huncounted : ∀ i, f.isUncounted (replies i) = true → i < last)
    (hk : max f.pagination.pageSize.toNat limit.toNat + 1 + last ≤ k) (n : Nat) :
    ((facing f replies k).pullRequests q limit n).length
      ≤ max f.pagination.pageSize.toNat limit.toNat + 1 + last := by
  by_contra hmore
  have hindex := index_le_of_asked hk (Nat.not_le.mp hmore)
  have hcount := countP_range_le (p := f.isUncounted ∘ replies) huncounted
    (max f.pagination.pageSize.toNat limit.toNat + 1 + last)
  omega

/-- **With more replies at hand, the calls do the same**, if the replies were enough. -/
lemma Connection.pull_facing {m n : Nat} (hmk : m ≤ k)
    (henough : ((facing f replies m).pullRequests q limit n).length ≤ m) :
    let p := (facing f replies m).cursor q limit
    (p.pull (facing f replies k) n).1 = (p.pull (facing f replies m) n).1
      ∧ (p.pull (facing f replies k) n).2.1 = (p.pull (facing f replies m) n).2.1
      ∧ (p.pull (facing f replies k) n).2.2.sent = (p.pull (facing f replies m) n).2.2.sent := by
  intro p
  obtain ⟨hsent, -, hheard⟩ := (Heard.pull p (facing f replies m) n).live rfl
  set heard := p.heard (facing f replies m) n
  have hrequests : (facing f replies m).pullRequests q limit n = heard.map Prod.fst := by
    rw [pullRequests, hsent, List.drop_left]
  rw [hrequests] at henough
  have hanswers : heard.map Prod.snd = (List.range heard.length).map replies := by
    have hfirst := answers_facing f replies m (heard.map Prod.fst)
    rw [List.take_of_length_le (by rwa [Transport.length_answers]), Nat.min_eq_left henough,
      List.length_map] at hfirst
    calc heard.map Prod.snd
        = ((facing f replies m).transport.exchanges (heard.map Prod.fst)).map Prod.snd :=
          congrArg (List.map Prod.snd) hheard
      _ = (facing f replies m).transport.answers (heard.map Prod.fst) :=
          List.map_snd_zip (by rw [Transport.length_answers])
      _ = (List.range heard.length).map replies := hfirst
  -- the longer beginning starts with what was heard
  have hsplit : (List.range k).map replies
      = heard.map Prod.snd ++ ((List.range k).map replies).drop heard.length := by
    have hlength : heard.length ≤ k := by
      rw [List.length_map] at henough
      omega
    rw [hanswers, ← Nat.min_eq_left hlength, ← List.take_range, List.map_take, Nat.min_eq_left hlength,
      List.take_append_drop]
  have hfed : (facing f replies k).Fed (facing f replies m).profile
      (heard.map Prod.snd ++ ((List.range k).map replies).drop heard.length) := by
    rw [← hsplit]
    exact fed_feeding _ _
  obtain ⟨houtcomes, hcursor, -, hsent'⟩ := p.pull_fed n hfed
  exact ⟨houtcomes, hcursor, by rw [hsent', hsent]; rfl⟩

end Facing

/-! ## Uncounted replies that go on -/

section Uncounted

variable {f : Profile} {p : PageCursor} {c : Connection} {token : String} {reply : Json}

/-- **One call reads all uncounted replies** that name a token, and gives nothing if no entry
follows. -/
lemma PageCursor.next_uncounted
    (huncounted : Page.ofReply f.pagination f.layout reply = .ok ⟨some token, 0, []⟩) {n : Nat}
    (hbuffer : p.buffer = []) (hdone : p.done = false) (hseen : p.seen ≤ p.budget)
    (hfed : c.Fed f (List.replicate n (.ok reply) ++ [.ok (.array [])])) :
    (p.next c).1 = none ∧ (p.next c).2.2.sent.length = c.sent.length + n + 1 := by
  -- such a reply leaves the buffer empty and the count as it was, so the call goes on
  induction n generalizing p c with
  | zero =>
      obtain ⟨habsorb, -, hsent⟩ := p.fetch_of_fed hfed
      rw [absorb, Page.ofReply_emptyArray] at habsorb
      obtain ⟨herror, hcursor⟩ := Prod.mk.inj habsorb
      have hread : p.fetch c = (none, p.addPage .empty, (p.fetch c).2.2) :=
        Prod.ext herror (Prod.ext hcursor rfl)
      have hempty : (p.addPage .empty).buffer = [] := by simp [addPage, Page.empty, hbuffer]
      rw [next_of_fetch hbuffer (by simp [hdone]) hread]
      dsimp only
      rw [next_of_done hempty rfl]
      exact ⟨rfl, by simp [hsent]⟩
  | succ n ih =>
      obtain ⟨habsorb, hrest, hsent⟩ := p.fetch_of_fed hfed
      rw [absorb, huncounted] at habsorb
      obtain ⟨herror, hcursor⟩ := Prod.mk.inj habsorb
      have hread : p.fetch c = (none, p.addPage ⟨some token, 0, []⟩, (p.fetch c).2.2) :=
        Prod.ext herror (Prod.ext hcursor rfl)
      rw [next_of_fetch hbuffer (by simp [hdone]) hread]
      obtain ⟨houtcome, hlength⟩ := ih (p := p.addPage ⟨some token, 0, []⟩)
        (by simp [addPage, hbuffer]) (by simpa [addPage] using hseen) hseen hrest
      refine ⟨houtcome, hlength.trans ?_⟩
      rw [hsent, List.length_append, List.length_singleton]
      omega

/-- One call on a new cursor may send any number of requests, if the replies count for nothing. -/
lemma Connection.pull_uncounted (q : CompiledQuery) (limit : UInt32) (n : Nat)
    (huncounted : Page.ofReply f.pagination f.layout reply = .ok ⟨some token, 0, []⟩) :
    let c := feeding f (List.replicate n (.ok reply) ++ [.ok (.array [])])
    c.pullOutcomes q limit 1 = [none] ∧ (c.pullRequests q limit 1).length = n + 1 := by
  intro c
  obtain ⟨houtcome, hlength⟩ := PageCursor.next_uncounted (p := c.cursor q limit) huncounted
    rfl rfl (Nat.zero_le _) (fed_feeding f _)
  refine ⟨congrArg (fun o => [o]) houtcome, ?_⟩
  have hsent : c.sent = [] := rfl
  rw [hsent, List.length_nil, Nat.zero_add] at hlength
  rw [pullRequests, hsent, List.length_nil, List.drop_zero]
  exact hlength

end Uncounted

/-! ## The result -/

/-- **How many requests a search may take.** -/
structure PagingBounded (q : CompiledQuery) (limit : UInt32) : Prop where
  /-- Any number of calls sends no more requests than the budget, one more, and one for each uncounted
  reply that came. -/
  bounded : ∀ (c : Connection) (n : Nat), (c.pullRequests q limit n).length
    ≤ c.searchBudget limit + 1 + (c.pullAnswers q limit n).countP c.profile.isUncounted
  /-- A directory that never runs out of replies, only finitely many of them uncounted, is asked for no
  more than some number of them.  With as many at hand or more, any number of calls gives the same, and
  so does collecting all entries. -/
  ends : ∀ (f : Profile) (replies : Nat → Except TransportError Json),
    {i | f.isUncounted (replies i) = true}.Finite → ∃ bound, ∀ k ≥ bound,
      (∀ n, ((Connection.facing f replies k).pullRequests q limit n).length ≤ bound
        ∧ (Connection.facing f replies k).pullOutcomes q limit n
          = (Connection.facing f replies bound).pullOutcomes q limit n)
      ∧ let collect := fun k =>
          ((Connection.facing f replies k).cursor q limit).collect (Connection.facing f replies k)
        (collect k).2.2.sent.length ≤ bound ∧ (collect k).1 = (collect bound).1
  /-- There is no bound without the uncounted replies: a single call may send any number of requests,
  and give nothing. -/
  uncounted_needed : ∀ n, ∃ c : Connection, c.pullOutcomes q limit 1 = [none]
    ∧ n < (c.pullRequests q limit 1).length

/-- **Paging is bounded by the budget and the uncounted replies.** -/
theorem paging_bounded (q : CompiledQuery) (limit : UInt32) : PagingBounded q limit where
  bounded c n := c.pullRequests_le q limit n
  ends f replies hfinite := by
    obtain ⟨last, hlast⟩ := hfinite.bddAbove
    have huncounted : ∀ i, f.isUncounted (replies i) = true → i < last + 1 := fun i hi =>
      Nat.lt_succ_of_le (hlast hi)
    refine ⟨max f.pagination.pageSize.toNat limit.toNat + 1 + (last + 1), fun k hk => ?_⟩
    set bound := max f.pagination.pageSize.toNat limit.toNat + 1 + (last + 1)
    have hrequests := Connection.pullRequests_facing_le (q := q) huncounted hk
    have henough := Connection.pullRequests_facing_le (q := q) huncounted (Nat.le_refl bound)
    have hsame := fun n => Connection.pull_facing hk (henough n)
    refine ⟨fun n => ⟨hrequests n, (hsame n).1⟩, ?_⟩
    -- both are called so often that the shorter beginning is at its end
    obtain ⟨n, hn⟩ := PageCursor.exists_none
      ((Connection.facing f replies bound).cursor q limit) (Connection.facing f replies bound)
    have hshort := PageCursor.collect_eq_pull _ _ hn
    have hlong := PageCursor.collect_eq_pull _ (Connection.facing f replies k) ((hsame n).1 ▸ hn)
    intro collect
    have hsent : (collect k).2.2.sent = (Connection.facing f replies k).pullRequests q limit n :=
      congrArg (·.2.2.sent) hlong
    refine ⟨hsent ▸ hrequests n, ?_⟩
    calc (collect k).1 = collected ((Connection.facing f replies k).pullOutcomes q limit n) :=
          congrArg Prod.fst hlong
      _ = collected ((Connection.facing f replies bound).pullOutcomes q limit n) :=
          congrArg collected (hsame n).1
      _ = (collect bound).1 := (congrArg Prod.fst hshort).symm
  uncounted_needed n := by
    let reply : Json := .object [("_links", .object [("next", .object [("data",
      .object [("cursor", .string "X")])])])]
    have huncounted : Page.ofReply {} .embedded reply = .ok ⟨some "X", 0, []⟩ := rfl
    obtain ⟨houtcome, hlength⟩ := Connection.pull_uncounted
      (f := .ofProvider "" .pingDirectory {}) q limit n huncounted
    exact ⟨_, houtcome, by omega⟩

end DirectorySearch
