import DirectorySearch.Proofs.Directory.CursorExchanges
import DirectorySearch.Proofs.Directory.Traversal

/-!
# The end of a cursor

A cursor that has given nothing or an error gives nothing from then on.  Draining it therefore makes
the same calls as calling it often enough, however many more calls that may be.

* `PageCursor.next_of_error` — nothing comes behind an error.
* `PageCursor.exists_none` — some number of calls reaches the end.
* `collected` — what outcomes come to: all entries, or the error among them.
* **`PageCursor.collect_eq_pull`** — collecting all entries is what any number of calls that reaches the
  end comes to, with the same requests.
-/

namespace DirectorySearch

/-- What outcomes come to: the entries in front of the first call that gave nothing, or the error among
them. -/
def collected {ε α : Type} : List (Option (Except ε α)) → Except ε (List α)
  | [] | none :: _ => .ok []
  | some (.error e) :: _ => .error e
  | some (.ok x) :: outcomes => (collected outcomes).map (x :: ·)

namespace PageCursor

/-- An error leaves a cursor at its end, with the buffer it had. -/
lemma done_of_fetch {p p' : PageCursor} {c c' : Connection} {e : ConnectionError}
    (h : p.fetch c = (some e, p', c')) : p'.done = true ∧ p'.buffer = p.buffer := by
  have habsorb : (some e, p') = p.absorb c.profile (c.answer p.request) := by
    rw [← fetch_absorb, h]
  cases hanswer : c.answer p.request with
  | error e' =>
      rw [hanswer, absorb] at habsorb
      obtain ⟨-, rfl⟩ := Prod.mk.inj habsorb
      exact ⟨rfl, rfl⟩
  | ok reply =>
      rw [hanswer, absorb] at habsorb
      split at habsorb
      · obtain ⟨-, rfl⟩ := Prod.mk.inj habsorb
        exact ⟨rfl, rfl⟩
      · cases (Prod.mk.inj habsorb).1

/-- **Nothing comes behind an error.** -/
lemma next_of_error {p : PageCursor} {c : Connection} {e : ConnectionError}
    (h : (p.next c).1 = some (.error e)) :
    (p.next c).2.1.next (p.next c).2.2 = (none, (p.next c).2) := by
  fun_induction PageCursor.next p c with
  | case1 p c entry rest hbuffer => simp at h
  | case2 p c hbuffer hdone => simp at h
  | case3 p c hbuffer hdone e' p' c' hfetch =>
      obtain ⟨hend, hrest⟩ := done_of_fetch hfetch
      exact next_of_done (hrest.trans hbuffer) hend c'
  | case4 p c hbuffer hdone p' c' hfetch ih => exact ih h

/-- **Some number of calls reaches the end.** -/
lemma exists_none (p : PageCursor) (c : Connection) : ∃ n, none ∈ (p.pull c n).1 := by
  fun_induction PageCursor.drain p c with
  | case1 p c p' c' hnext => exact ⟨1, by simp [pull, hnext]⟩
  | case2 p c o p' c' hnext os p₁ c₁ hdrain ih =>
      obtain ⟨n, hn⟩ := ih
      refine ⟨n + 1, ?_⟩
      rw [pull_next, hnext]
      exact List.mem_cons_of_mem _ hn

/-- **Collecting all entries is calling as often as it takes**, or oftener. -/
theorem collect_eq_pull (p : PageCursor) (c : Connection) {n : Nat} (h : none ∈ (p.pull c n).1) :
    p.collect c = (collected (p.pull c n).1, (p.pull c n).2) := by
  induction n generalizing p c with
  | zero => simp [pull] at h
  | succ n ih =>
      rw [collect]
      rw [pull_next] at h ⊢
      split
      · next p' c' hnext =>
        have hend := next_of_none (p := p) (c := c) (by rw [hnext])
        rw [hnext] at hend ⊢
        rw [pull_of_none hend]
        rfl
      · next e p' c' hnext =>
        have hend := next_of_error (p := p) (c := c) (e := e) (by rw [hnext])
        rw [hnext] at hend ⊢
        rw [pull_of_none hend]
        rfl
      · next entry p' c' hnext =>
        rw [hnext] at h ⊢
        rw [ih p' c' (by simpa using h)]
        rfl

end PageCursor

end DirectorySearch
