import DirectorySearch.Http.Request
import DirectorySearch.Proofs.Directory.PagingBound
import DirectorySearch.Proofs.Json.KeptText
import DirectorySearch.Proofs.Json.Reading
import DirectorySearch.Proofs.Json.WrittenPointer
import Mathlib

/-!
# The token that is handed back

A reply names the token that continues the search.  The next request carries it back, but not always as
the directory wrote it: the body of the reply is read as a JSON value first, and the token is the text of
what stands at the pointer in that value.

* `WrittenAt` — what a body has written at a pointer.
* `PageCursor.followUp` — the request behind the one that a cursor is about to send;
  `followUp_of_page` — it is sent once the entries of the page are handed out.
* **`token_handed_back_iff`** — it carries the token as it was written, exactly if the token is a string,
  a truth value, an integer of 64 bits, or a decimal written the way doubles are.
* `token_handed_back_rounded` — an integer of 65 bits comes back as the decimal of a double.
-/

namespace DirectorySearch

open Written (IsText Spells)

/-! ## What a body has written -/

/-- What a body has written at a pointer. -/
def WrittenAt (pointer : String) (body : List Char) (token : Written) : Prop :=
  ∃ w, IsText w body ∧ w.pointer? pointer = some token

lemma WrittenAt.unique {pointer : String} {body : List Char} {token token' : Written}
    (h : WrittenAt pointer body token) (h' : WrittenAt pointer body token') : token = token' := by
  obtain ⟨w, hw, htoken⟩ := h
  obtain ⟨w', hw', htoken'⟩ := h'
  cases hw.read?.symm.trans hw'.read?
  exact Option.some.inj (htoken.symm.trans htoken')

/-- **A body that has a scalar at a pointer has it written there.** -/
lemma exists_writtenAt {pointer : String} {body : List Char} {reply j : Json}
    (hreply : bodyValue body = .ok reply) (hj : reply.pointer? pointer = some j)
    (hscalar : j.isScalar = true) : ∃ token, WrittenAt pointer body token ∧ token.value? = some j := by
  rw [bodyValue] at hreply
  split_ifs at hreply
  · cases hreply
    by_cases hpointer : pointer = ""
    · subst hpointer
      cases hj
      cases hscalar
    · rw [Json.pointer?_null hpointer] at hj
      cases hj
  · split at hreply
    · next value hparse =>
      cases hreply
      rw [Json.parse?, String.toList_ofList] at hparse
      split at hparse
      · next w hread =>
        split_ifs at hparse
        have hplace := Written.pointer?_value? hparse pointer
        rw [hj, Option.map_some] at hplace
        obtain ⟨token, htoken, hvalue⟩ := Option.map_eq_some_iff.mp hplace
        exact ⟨token, ⟨w, Written.read?_eq_some_iff.mp hread, htoken⟩, hvalue⟩
      · cases hparse
    · cases hreply

/-- The token that a reply names with a scalar. -/
lemma continuationToken_scalar {pointer : String} {reply j : Json} (hj : reply.pointer? pointer = some j)
    (hscalar : j.isScalar = true) :
    continuationToken pointer reply = .ok (if pointer = "" then none else some j.scalarText) := by
  rw [continuationToken]
  split_ifs
  · rfl
  · rw [hj]
    cases j with
    | null | array | object => cases hscalar
    | _ => rfl

/-! ## The next request -/

namespace PageCursor

variable {p : PageCursor} {c : Connection}

/-- The second request that so many calls send. -/
def followUp (p : PageCursor) (c : Connection) (n : Nat) : Option CompiledQuery :=
  (p.pull c n).2.2.sent[c.sent.length + 1]?

lemma followUp_eq (hc : c.pretending = false) (n : Nat) :
    p.followUp c n = (p.heard c n)[1]?.map Prod.fst := by
  rw [followUp, ((Connection.Heard.pull p c n).live hc).1, List.getElem?_append_right (by omega),
    Nat.add_sub_cancel_left, List.getElem?_map]

lemma next_of_buffer {entry : Json} {rest : List Json} (h : p.buffer = entry :: rest) (c : Connection) :
    p.next c = (some (.ok entry), { p with buffer := rest }, c) := by
  rw [next, h]

/-- The entries that are left are handed out without a request. -/
lemma heard_of_buffer (c : Connection) (n : Nat) {buffer : List Json} (h : p.buffer = buffer) :
    p.heard c (buffer.length + n) = { p with buffer := [] }.heard c n := by
  induction buffer generalizing p with
  | nil => rw [List.length_nil, Nat.zero_add, ← h]
  | cons entry rest ih =>
      rw [List.length_cons, Nat.add_right_comm, heard, asks_of_buffer h, next_of_buffer h,
        List.nil_append]
      exact ih rfl

/-- A call that reads a page goes on from there. -/
lemma heard_of_fetch {p' : PageCursor} {c' : Connection} (hbuffer : p.buffer = [])
    (hdone : ¬ p.done = true) (hfetch : p.fetch c = (none, p', c')) (n : Nat) :
    p.heard c (n + 1) = (p.request, c.answer p.request) :: p'.heard c' (n + 1) := by
  rw [heard, heard, asks_of_fetch hbuffer hdone hfetch, next_of_fetch hbuffer hdone hfetch]
  rfl

lemma heard_of_done (hbuffer : p.buffer = []) (hdone : p.done = true) (n : Nat) : p.heard c n = [] := by
  induction n with
  | zero => rfl
  | succ n ih => rw [heard, asks_of_done hbuffer hdone, next_of_done hbuffer hdone, ih, List.append_nil]

/-- A cursor that is not at its end asks for a page at the next call. -/
lemma head?_heard (hbuffer : p.buffer = []) (n : Nat) :
    ((p.heard c (n + 1)).head?).map Prod.fst = if p.done then none else some p.request := by
  split_ifs with hdone
  · rw [heard_of_done hbuffer hdone]
    rfl
  · rw [heard, asks_of_fetch hbuffer hdone rfl]
    rfl

/-- **The request behind a page** is sent once the entries of the page are handed out. -/
lemma followUp_of_page (hc : c.pretending = false) (hbuffer : p.buffer = []) (hdone : p.done = false)
    {page : Page} (hpage : c.profile.readPage (c.transport.send p.request).1.outcome = .ok page) {n : Nat}
    (hn : page.entries.length < n) :
    p.followUp c n = if (p.addPage page).done then none else some (p.addPage page).request := by
  obtain ⟨m, rfl⟩ := Nat.exists_eq_add_of_lt hn
  obtain ⟨hnone, hcursor⟩ := fetch_ok hc hpage
  have hfetch : p.fetch c = (none, p.addPage page, (p.fetch c).2.2) :=
    Prod.ext hnone (Prod.ext hcursor rfl)
  have hentries : (p.addPage page).buffer = page.entries := by simp [addPage, hbuffer]
  rw [followUp_eq hc, heard_of_fetch hbuffer (by simp [hdone]) hfetch, Nat.add_assoc,
    heard_of_buffer _ _ hentries, List.getElem?_cons_succ, ← List.head?_eq_getElem?, head?_heard rfl]
  rfl

/-- **What is sent behind a page with a scalar token**, as long as the budget lasts. -/
lemma followUp_of_scalar (hc : c.pretending = false) (hbuffer : p.buffer = []) (hdone : p.done = false)
    {reply j : Json} (hreply : (c.transport.send p.request).1.outcome = .ok reply)
    (hj : reply.pointer? c.profile.pagination.cursorPointer = some j) (hscalar : j.isScalar = true)
    (hseen : p.seen + c.profile.replyCount reply ≤ p.budget) {n : Nat}
    (hn : (c.profile.layout.entries reply).length < n) :
    p.followUp c n = if c.profile.pagination.cursorPointer = "" then none
      else some (p.query.page p.pageSize (some j.scalarText)) := by
  have hpage : c.profile.readPage (c.transport.send p.request).1.outcome
      = .ok ⟨if c.profile.pagination.cursorPointer = "" then none else some j.scalarText,
        c.profile.replyCount reply, c.profile.layout.entries reply⟩ := by
    rw [hreply, Profile.readPage, Page.ofReply, continuationToken_scalar hj hscalar]
    rfl
  rw [followUp_of_page hc hbuffer hdone hpage hn]
  by_cases hpointer : c.profile.pagination.cursorPointer = ""
  · simp [addPage, hpointer]
  · simp [addPage, hpointer, request, hseen]

end PageCursor

/-! ## The result -/

/-- **When a token is handed back as it was written.** -/
theorem token_handed_back_iff {p : PageCursor} {c : Connection} {body : List Char} {reply j : Json}
    (hc : c.pretending = false) (hbuffer : p.buffer = []) (hdone : p.done = false)
    (hbody : (c.transport.send p.request).1.outcome = bodyValue body)
    (hreply : bodyValue body = .ok reply)
    (hj : reply.pointer? c.profile.pagination.cursorPointer = some j) (hscalar : j.isScalar = true)
    (hseen : p.seen + c.profile.replyCount reply ≤ p.budget) :
    ∃ token spelled text, WrittenAt c.profile.pagination.cursorPointer body token
      ∧ Spells token spelled ∧ spelled <:+: body ∧ token.scalarText? = some text
      ∧ ∀ n > (c.profile.layout.entries reply).length,
        ((p.followUp c n).isSome ↔ c.profile.pagination.cursorPointer ≠ "")
          ∧ ((p.followUp c n).bind (·.cursor) = some text
            ↔ c.profile.pagination.cursorPointer ≠ "" ∧ token.IsKept) := by
  obtain ⟨token, ⟨w, hw, htoken⟩, hvalue⟩ := exists_writtenAt hreply hj hscalar
  obtain ⟨spelled, hspelled, hpart⟩ := hw.exists_infix htoken
  obtain ⟨text, htext, hkept⟩ := Written.scalarText_eq_iff hspelled hvalue hscalar
  refine ⟨token, spelled, text, ⟨w, hw, htoken⟩, hspelled, hpart, htext, fun n hn => ?_⟩
  rw [PageCursor.followUp_of_scalar hc hbuffer hdone (hbody.trans hreply) hj hscalar hseen hn, ← hkept]
  by_cases hpointer : c.profile.pagination.cursorPointer = ""
  · simp [hpointer]
  · simp [hpointer, CompiledQuery.page]

/-! ## Replies that hold nothing but a number -/

/-- The body of a reply that holds nothing but a number. -/
def numberReply (t : NumberText) : List Char :=
  ['\x7b', '"', 'c', '"', ':'] ++ (t.characters ++ ['\x7d'])

/-- A connection that gets such a reply, and takes the number for a token. -/
def numberConnection (t : NumberText) : Connection :=
  .feeding (.ofProvider "" .scim { cursorPointer := "/c" }) [bodyValue (numberReply t)]

section NumberReply

variable {t : NumberText}

lemma isText_numberReply (ht : t.IsJson) :
    IsText (.object [([.char 'c'], .number t)]) (numberReply t) := by
  have hblanks : Written.Blanks [] := by simp [Written.Blanks]
  have hname : Written.SpellsParts [.char 'c'] ['c'] := .bare (by decide) (by decide) (by decide) .nil
  exact ⟨[], _, [], hblanks, .object (.last hblanks hname hblanks hblanks (.number ht) hblanks), hblanks,
    by simp [numberReply]⟩

lemma writtenAt_numberReply (ht : t.IsJson) : WrittenAt "/c" (numberReply t) (.number t) :=
  ⟨_, isText_numberReply ht, by cbv⟩

lemma bodyValue_numberReply (ht : t.IsJson) {j : Json} (hj : t.value? = some j) :
    bodyValue (numberReply t) = .ok (.object [("c", j)]) := by
  have htrim : (trim (numberReply t)).isEmpty = false := by
    have hopen : isBlank '\x7b' = false := by decide
    have hclose : isBlank '\x7d' = false := by decide
    simp [trim, trimStart, numberReply, hopen, hclose]
  have hname : stringText? [.char 'c'] = some ['c'] := rfl
  rw [bodyValue, htrim, Json.parse?, String.toList_ofList, (isText_numberReply ht).read?]
  simp [Written.depth, Written.membersDepth, Written.value?, Written.memberValues?, hname, hj,
    Written.maxDepth, insertMember]

lemma pointer?_numberReply (j : Json) : (Json.object [("c", j)]).pointer? "/c" = some j := by cbv

end NumberReply

/-- A cursor over what matches a query, at its beginning. -/
def numberCursor (t : NumberText) : PageCursor :=
  (numberConnection t).cursor { filter := "uid pr", includeAttributes := "*" } 100

lemma send_numberConnection (t : NumberText) (q : CompiledQuery) :
    ((numberConnection t).transport.send q).1.outcome = bodyValue (numberReply t) := rfl

/-- A reply that holds nothing but a number is a page of one entry. -/
lemma replyCount_numberReply (t : NumberText) (j : Json) :
    (numberConnection t).profile.replyCount (.object [("c", j)]) = 1 := by
  have hsize : reportedSize "/size" (.object [("c", j)]) = none := by cbv
  exact congrArg (·.getD 1) hsize

/-- The number `1.5` is handed back as it was written. -/
theorem token_handed_back_iff_decimal :
    let t : NumberText := ⟨false, ['1'], ['5'], none⟩
    ∃ token, WrittenAt "/c" (numberReply t) token ∧ token.IsKept
      ∧ ((numberCursor t).followUp (numberConnection t) 2).bind (·.cursor) = some "1.5" := by
  intro t
  have ht : t.IsJson := ⟨Or.inr ⟨'1', [], rfl, by decide⟩, by simp [t], by simp [t], nofun⟩
  have hdouble : scaledDouble? false 15 (-1) = some ⟨0x3ff8000000000000⟩ := by decide +kernel
  have hvalue : t.value? = some (.float ⟨0x3ff8000000000000⟩) := congrArg (·.map Json.float) hdouble
  have hkept : t.IsKept := (NumberText.characters_eq_iff ht hvalue).mp (by decide +kernel)
  have hseen := replyCount_numberReply t (.float ⟨0x3ff8000000000000⟩)
  obtain ⟨token, -, text, htoken, -, -, htext, hback⟩ := token_handed_back_iff (p := numberCursor t)
    (c := numberConnection t) rfl rfl rfl (send_numberConnection t _) (bodyValue_numberReply ht hvalue)
    (pointer?_numberReply _) rfl (by rw [hseen]; decide)
  obtain rfl := htoken.unique (writtenAt_numberReply ht)
  cases htext
  exact ⟨_, htoken, hkept, (hback 2 (Nat.lt_succ_self 1)).2.mpr ⟨by decide, hkept⟩⟩

/-- **A larger number is handed back as another one**: `18446744073709551617` does not fit 64 bits. -/
theorem token_handed_back_rounded :
    let t : NumberText := ⟨false, "18446744073709551617".toList, [], none⟩
    bodyValue (numberReply t) = .ok (.object [("c", .float ⟨0x43f0000000000000⟩)])
      ∧ WrittenAt "/c" (numberReply t) (.number t)
      ∧ (Written.number t).scalarText? = some "18446744073709551617"
      ∧ ((numberCursor t).followUp (numberConnection t) 2).bind (·.cursor)
        = some "1.8446744073709552e+19" := by
  intro t
  have ht : t.IsJson :=
    ⟨Or.inr ⟨'1', "8446744073709551617".toList, by decide +kernel, by decide⟩, by simp [t], by simp [t],
      nofun⟩
  have hdigits : takeSignificand 0 "18446744073709551617".toList = (1844674407370955161, ['7']) := by
    decide +kernel
  have hdouble : scaledDouble? false 1844674407370955161 1 = some ⟨0x43f0000000000000⟩ := by
    decide +kernel
  have hvalue : t.value? = some (.float ⟨0x43f0000000000000⟩) :=
    (NumberText.value?_of_dropped rfl hdigits).trans (congrArg (·.map Json.float) hdouble)
  have hseen := replyCount_numberReply t (.float ⟨0x43f0000000000000⟩)
  have hback := PageCursor.followUp_of_scalar (p := numberCursor t) (c := numberConnection t) rfl rfl rfl
    ((send_numberConnection t _).trans (bodyValue_numberReply ht hvalue)) (pointer?_numberReply _) rfl
    (by rw [hseen]; decide) (Nat.lt_succ_self 1)
  have htext : (Json.float ⟨0x43f0000000000000⟩).scalarText = "1.8446744073709552e+19" := by
    decide +kernel
  refine ⟨bodyValue_numberReply ht hvalue, writtenAt_numberReply ht, ?_, ?_⟩
  · simp [t, Written.scalarText?, NumberText.characters, signed]
  · rw [hback, if_neg (by decide)]
    exact congrArg some htext

end DirectorySearch
