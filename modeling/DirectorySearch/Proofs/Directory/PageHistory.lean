import DirectorySearch.Directory.Cursor
import Mathlib.Tactic.Common

/-!
# The pages of a search, one after the other

What a cursor does depends on nothing but the replies it has had.  This file says how, without the
cursor.

* `Transport.answers` — what comes back for queries that are sent one after the other.
* `PageHistory` — the pages that were read, in order, with an error in place of a page where there was
  no usable reply.
* `PageHistory.token`, `count`, `entries`, `failure`, **`continues`** — where the next page starts, how
  many entries count as seen, the entries, the error, and whether another page is asked for.
* `PageHistory.requests`, `outcomes` — what is sent for a history, and what is handed out of it.

Each of these has one lemma for a page that is added at the end, which is all that the cursor needs.
-/

namespace DirectorySearch

/-! ## Replies in order -/

namespace Transport

/-- The transport after some queries. -/
def after (t : Transport) (queries : List CompiledQuery) : Transport :=
  queries.foldl (fun t q => (t.send q).2) t

/-- What comes back for queries that are sent one after the other. -/
def answers (t : Transport) : List CompiledQuery → List (Except TransportError Json)
  | [] => []
  | q :: queries => (t.send q).1.outcome :: (t.send q).2.answers queries

lemma after_concat (t : Transport) (queries : List CompiledQuery) (q : CompiledQuery) :
    t.after (queries ++ [q]) = ((t.after queries).send q).2 := by
  simp [after]

lemma answers_concat (t : Transport) (queries : List CompiledQuery) (q : CompiledQuery) :
    t.answers (queries ++ [q]) = t.answers queries ++ [((t.after queries).send q).1.outcome] := by
  induction queries generalizing t with
  | nil => rfl
  | cons a queries ih =>
      rw [List.cons_append, answers, ih, answers]
      rfl

end Transport

/-- What a cursor makes of an answer: a page, or the error that stops it. -/
def Profile.readPage (f : Profile) : Except TransportError Json → Except ConnectionError Page
  | .ok reply => Page.ofReply f.pagination f.layout reply
  | .error e => .error (.transport e)

/-! ## Histories -/

/-- The pages that were read, in order, and the errors in place of pages. -/
abbrev PageHistory := List (Except ConnectionError Page)

namespace PageHistory

/-- The token of the last page. -/
def token (h : PageHistory) : Option String :=
  match h.getLast? with
  | some (.ok page) => page.token
  | _ => none

/-- The entries of a page; an error has none. -/
def pageEntries : Except ConnectionError Page → List Json
  | .ok page => page.entries
  | .error _ => []

/-- How many entries of a page count as seen. -/
def pageCount : Except ConnectionError Page → Nat
  | .ok page => page.size
  | .error _ => 0

/-- All entries, in order. -/
def entries (h : PageHistory) : List Json := h.flatMap pageEntries

/-- How many entries count as seen. -/
def count : PageHistory → Nat
  | [] => 0
  | page :: h => pageCount page + count h

/-- The error at the end, if there is one. -/
def failure (h : PageHistory) : Option ConnectionError :=
  match h.getLast? with
  | some (.error e) => some e
  | _ => none

/-- Whether another page is asked for: always at first, and then if the last page names a token and the
count is within the budget. -/
def continues (budget : Nat) (h : PageHistory) : Bool :=
  match h.getLast? with
  | none => true
  | some (.ok page) => page.token.isSome && h.count ≤ budget
  | some (.error _) => false

/-- What is handed out: the entries, then the error. -/
def outcomes (h : PageHistory) : List (Except ConnectionError Json) :=
  h.entries.map .ok ++ h.failure.toList.map .error

/-- The queries sent: each continues from the page before. -/
def requests (q : CompiledQuery) (pageSize : UInt32) (h : PageHistory) : List CompiledQuery :=
  (List.range h.length).map fun i => q.page pageSize (token (h.take i))

@[simp] theorem token_concat (h : PageHistory) (page : Except ConnectionError Page) :
    token (h ++ [page]) = token [page] := by
  simp [token]

@[simp] theorem entries_append (h more : PageHistory) :
    entries (h ++ more) = entries h ++ entries more := by
  simp [entries]

@[simp] theorem entries_singleton (page : Except ConnectionError Page) :
    entries [page] = pageEntries page := by
  simp [entries]

@[simp] theorem count_append (h more : PageHistory) :
    count (h ++ more) = count h + count more := by
  induction h with
  | nil => simp [count]
  | cons page h ih => rw [List.cons_append, count, count, ih, Nat.add_assoc]

lemma requests_concat (q : CompiledQuery) (pageSize : UInt32) (h : PageHistory)
    (page : Except ConnectionError Page) :
    requests q pageSize (h ++ [page])
      = requests q pageSize h ++ [q.page pageSize (token h)] := by
  have htake : ∀ i ∈ List.range h.length, (h ++ [page]).take i = h.take i := fun i hi =>
    List.take_append_of_le_length (Nat.le_of_lt (List.mem_range.mp hi))
  rw [requests, List.length_append, List.length_singleton, List.range_succ, List.map_append,
    List.map_singleton, List.take_left, requests]
  congr 1
  exact List.map_congr_left fun i hi => by rw [htake i hi]

lemma requests_prefix (q : CompiledQuery) (pageSize : UInt32) (h more : PageHistory) :
    requests q pageSize h <+: requests q pageSize (h ++ more) := by
  induction more generalizing h with
  | nil => simp
  | cons page more ih =>
      have hone : requests q pageSize h <+: requests q pageSize (h ++ [page]) := by
        rw [requests_concat]
        exact List.prefix_append _ _
      have hrest := ih (h ++ [page])
      rw [List.append_assoc] at hrest
      exact hone.trans hrest

@[simp] theorem length_requests (q : CompiledQuery) (pageSize : UInt32) (h : PageHistory) :
    (requests q pageSize h).length = h.length := by
  simp [requests]

lemma continues_concat_ok (budget : Nat) (h : PageHistory) (page : Page) :
    continues budget (h ++ [.ok page])
      = (page.token.isSome && decide (h.count + page.size ≤ budget)) := by
  unfold continues
  rw [List.getLast?_concat, count_append]
  rfl

lemma outcomes_of_lt {h : PageHistory} {n : Nat} (hn : n < h.entries.length) :
    h.outcomes[n]? = h.entries[n]?.map .ok := by
  rw [outcomes, List.getElem?_append_left (by simpa using hn), List.getElem?_map]

end PageHistory

end DirectorySearch
