import DirectorySearch.Proofs.Directory.CursorEnd

/-!
# The ways to read a cursor agree

A cursor is read call by call, as a stream of outcomes, or into one list that an error puts an end to.
Each of the three is a loop of its own over the same calls, with a rule of its own for when to stop.  This
file shows that they differ in nothing else, wherever the cursor stands: fresh, in the middle of a page,
at its end, or behind an error.

* `PageCursor.pull_eq_drain` — any number of calls gives the first outcomes of the stream, and then
  nothing.
* `PageCursor.drain_after` — the stream makes the calls up to the first that gives nothing, and calls
  behind it change nothing.
* `PageCursor.error_not_mem_dropLast` — only the last outcome of a stream is an error.
* `PageCursor.collect_eq_drain` — the list holds what the stream holds.
* **`readings_agree`** — all of it together.

Whether two readings make the same requests is read off the connection that they leave behind: if it is
the same one, then so is what was sent, logged and reported, and what the transport still holds.
-/

namespace DirectorySearch

/-! ## What outcomes come to -/

section Collected

variable {ε α : Type}

/-- A call that gives nothing adds nothing at the end. -/
lemma collected_concat_none (outcomes : List (Option (Except ε α))) :
    collected (outcomes ++ [none]) = collected outcomes := by
  induction outcomes with
  | nil => rfl
  | cons o outcomes ih =>
      rcases o with _ | e | x
      · rfl
      · rfl
      · rw [List.cons_append, collected, collected, ih]

lemma collected_eq_ok_iff {outcomes : List (Except ε α)} {xs : List α} :
    collected (outcomes.map some) = .ok xs ↔ outcomes = xs.map .ok := by
  induction outcomes generalizing xs with
  | nil => cases xs <;> simp [collected]
  | cons o outcomes ih =>
      cases o with
      | error e => cases xs <;> simp [collected]
      | ok x =>
          rw [List.map_cons, collected]
          cases xs with
          | nil => cases collected (outcomes.map some) <;> simp [Except.map]
          | cons y ys =>
              rw [List.map_cons, List.cons.injEq, Except.ok.injEq, ← ih]
              cases collected (outcomes.map some) <;> simp [Except.map]

lemma collected_eq_error_iff {outcomes : List (Except ε α)} {e : ε}
    (hlast : ∀ e, .error e ∉ outcomes.dropLast) :
    collected (outcomes.map some) = .error e ↔ .error e ∈ outcomes := by
  induction outcomes with
  | nil => simp [collected]
  | cons o outcomes ih =>
      cases outcomes with
      | nil => cases o <;> simp [collected, Except.map, eq_comm]
      | cons o' outcomes =>
          simp only [List.dropLast_cons_cons, List.mem_cons, not_or] at hlast
          cases o with
          | error e' => exact absurd rfl (hlast e').1
          | ok x =>
              rw [List.map_cons, collected, List.mem_cons, ← ih fun e => (hlast e).2]
              cases collected ((o' :: outcomes).map some) <;> simp [Except.map]

end Collected

/-! ## The three loops -/

namespace PageCursor

variable {p p' : PageCursor} {c c' : Connection}

lemma drain_of_none (h : p.next c = (none, p', c')) : p.drain c = ([], p', c') := by
  rw [drain]
  split
  · next hnext =>
    rw [h] at hnext
    cases hnext
    rfl
  · next hnext =>
    rw [h] at hnext
    cases hnext

lemma drain_of_some {o : Except ConnectionError Json} (h : p.next c = (some o, p', c')) :
    p.drain c = (o :: (p'.drain c').1, (p'.drain c').2) := by
  rw [drain]
  split
  · next hnext =>
    rw [h] at hnext
    cases hnext
  · next hnext =>
    rw [h] at hnext
    cases hnext
    rfl

/-- **Any number of calls gives the first outcomes of the stream**, and behind them nothing. -/
lemma pull_eq_drain (p : PageCursor) (c : Connection) (n : Nat) :
    (p.pull c n).1
      = ((p.drain c).1.take n).map some ++ List.replicate (n - (p.drain c).1.length) none := by
  induction n generalizing p c with
  | zero => simp [pull]
  | succ n ih =>
      cases hnext : p.next c with
      | mk o r =>
          obtain ⟨p', c'⟩ := r
          cases o with
          | none =>
              have hend := next_of_none (p := p) (c := c) (by rw [hnext])
              rw [hnext] at hend
              rw [pull_next, hnext, drain_of_none hnext, pull_of_none hend]
              rfl
          | some o =>
              rw [pull_next, hnext, drain_of_some hnext, ih]
              simp

/-- **The stream makes the calls up to the first that gives nothing.**  Calls behind it change
nothing. -/
lemma drain_after (p : PageCursor) (c : Connection) {n : Nat} (h : (p.drain c).1.length < n) :
    (p.pull c n).2 = (p.drain c).2 := by
  induction n generalizing p c with
  | zero => exact absurd h (Nat.not_lt_zero _)
  | succ n ih =>
      cases hnext : p.next c with
      | mk o r =>
          obtain ⟨p', c'⟩ := r
          cases o with
          | none =>
              have hend := next_of_none (p := p) (c := c) (by rw [hnext])
              rw [hnext] at hend
              rw [pull_next, hnext, drain_of_none hnext, pull_of_none hend]
          | some o =>
              rw [drain_of_some hnext, List.length_cons, Nat.add_lt_add_iff_right] at h
              rw [pull_next, hnext, drain_of_some hnext, ih p' c' h]

/-- **Only the last outcome of a stream is an error.** -/
lemma error_not_mem_dropLast (p : PageCursor) (c : Connection) (e : ConnectionError) :
    .error e ∉ (p.drain c).1.dropLast := by
  fun_induction PageCursor.drain p c with
  | case1 p c p' c' hnext => simp
  | case2 p c o p' c' hnext os p₁ c₁ hdrain ih =>
      rw [hdrain] at ih
      cases os with
      | nil => simp
      | cons o' os =>
          rw [List.dropLast_cons_cons, List.mem_cons, not_or]
          refine ⟨fun ho => ?_, ih⟩
          -- behind an error the stream would be at its end
          have hend := next_of_error (p := p) (c := c) (e := e) (by rw [hnext, ho])
          rw [hnext] at hend
          rw [drain_of_none hend] at hdrain
          cases hdrain

/-- **The list holds what the stream holds**, after the same calls. -/
lemma collect_eq_drain (p : PageCursor) (c : Connection) :
    p.collect c = (collected ((p.drain c).1.map some), (p.drain c).2) := by
  have hlt := Nat.lt_succ_self (p.drain c).1.length
  have hpull := p.pull_eq_drain c ((p.drain c).1.length + 1)
  rw [List.take_of_length_le (Nat.le_succ _), Nat.add_sub_cancel_left, List.replicate_one] at hpull
  have hnone : none ∈ (p.pull c ((p.drain c).1.length + 1)).1 := by simp [hpull]
  rw [p.collect_eq_pull c hnone, p.drain_after c hlt, hpull, collected_concat_none]

end PageCursor

/-! ## The result -/

/-- **What the ways to read a cursor have in common.** -/
structure ReadingsAgree (p : PageCursor) (c : Connection) : Prop where
  /-- Any number of calls gives the first outcomes of the stream, and then nothing. -/
  calls : ∀ n, (p.pull c n).1
    = ((p.drain c).1.take n).map some ++ List.replicate (n - (p.drain c).1.length) none
  /-- Only the last outcome of the stream is an error. -/
  error_last : ∀ e, .error e ∉ (p.drain c).1.dropLast
  /-- The beginning of the stream holds the first outcomes. -/
  first : ∀ n, (p.take c n).1 = (p.drain c).1.take n
  /-- It stops at the first call that gives nothing, and makes the same requests as so many calls. -/
  first_calls : ∀ n, (p.take c n).2 = (p.pull c (min n ((p.drain c).1.length + 1))).2
    ∧ (p.take c n).2 = (p.pull c n).2
  /-- All of the stream takes the calls up to the first that gives nothing. -/
  all_calls : (p.drain c).2 = (p.pull c ((p.drain c).1.length + 1)).2
  /-- The list is given if no outcome is an error, and then it holds all entries in order. -/
  list : ∀ entries, (p.collect c).1 = .ok entries ↔ (p.drain c).1 = entries.map .ok
  /-- Otherwise the error is given. -/
  list_error : ∀ e, (p.collect c).1 = .error e ↔ .error e ∈ (p.drain c).1
  /-- Either way the requests are those of reading all of the stream. -/
  list_calls : (p.collect c).2 = (p.drain c).2

/-- **The ways to read a cursor agree**, wherever it stands and whatever the replies to come are. -/
theorem readings_agree (p : PageCursor) (c : Connection) : ReadingsAgree p c where
  calls n := p.pull_eq_drain c n
  error_last e := p.error_not_mem_dropLast c e
  first n := by
    rw [p.take_eq_pull c n, p.pull_eq_drain c n, List.reduceOption_append,
      List.reduceOption_replicate_none, List.append_nil, List.reduceOption, List.filterMap_map]
    exact List.filterMap_some
  first_calls n := by
    rw [p.take_eq_pull c n]
    refine ⟨?_, rfl⟩
    rcases Nat.le_total n ((p.drain c).1.length + 1) with hle | hge
    · rw [Nat.min_eq_left hle]
    · rw [Nat.min_eq_right hge, p.drain_after c hge, p.drain_after c (Nat.lt_succ_self _)]
  all_calls := (p.drain_after c (Nat.lt_succ_self _)).symm
  list entries := by
    rw [p.collect_eq_drain c]
    exact collected_eq_ok_iff
  list_error e := by
    rw [p.collect_eq_drain c]
    exact collected_eq_error_iff fun e => p.error_not_mem_dropLast c e
  list_calls := by rw [p.collect_eq_drain c]

end DirectorySearch
