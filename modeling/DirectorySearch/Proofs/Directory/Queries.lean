import DirectorySearch.Directory.Script
import Mathlib.Tactic.Common

/-!
# Operations are made of queries

A connection is changed by the switches of its log, by the two ends of a dry run, and otherwise only by
queries.  So what every query does to a connection, a cursor does as well, and so does every step of a
script that asks the directory something.  This file is that argument, once for all relations.

* `Connection.KeptByQueries` — a relation between a connection and what becomes of it, which every query
  keeps, one after the other.
* `KeptByQueries.next`, `pull`, `take`, `drain`, `collect` — then cursors keep it.
* **`KeptByQueries.step`** — and every step does that only asks (`Step.onlyAsks`).
-/

namespace DirectorySearch

namespace Connection

/-- A relation between a connection and what becomes of it that queries keep. -/
structure KeptByQueries (R : Connection → Connection → Prop) : Prop where
  refl : ∀ c, R c c
  trans : ∀ {c c₁ c₂}, R c c₁ → R c₁ c₂ → R c c₂
  run : ∀ c q, R c (c.run q).2
  /-- Reports do not matter. -/
  events : ∀ c events, R c { c with events := events }

namespace KeptByQueries

variable {R : Connection → Connection → Prop} (hR : KeptByQueries R)

include hR

lemma fetch (p : PageCursor) (c : Connection) : R c (p.fetch c).2.2 := by
  have hrun := hR.run c p.request
  rw [PageCursor.fetch]
  split
  · next e c' h =>
    rw [h] at hrun
    exact hR.trans hrun (hR.events _ _)
  · next reply c' h =>
    rw [h] at hrun
    split <;> exact hR.trans hrun (hR.events _ _)

lemma next (p : PageCursor) (c : Connection) : R c (p.next c).2.2 := by
  fun_induction PageCursor.next p c with
  | case1 => exact hR.refl _
  | case2 => exact hR.refl _
  | case3 p c _ _ e p' c' hfetch =>
      have hstep := hR.fetch p c
      rwa [hfetch] at hstep
  | case4 p c _ _ p' c' hfetch ih =>
      have hstep := hR.fetch p c
      rw [hfetch] at hstep
      exact hR.trans hstep ih

lemma pull (p : PageCursor) (c : Connection) (n : Nat) : R c (p.pull c n).2.2 := by
  induction n generalizing p c with
  | zero => exact hR.refl _
  | succ n ih => exact hR.trans (hR.next p c) (ih _ _)

lemma take (p : PageCursor) (c : Connection) (n : Nat) : R c (p.take c n).2.2 := by
  induction n generalizing p c with
  | zero => exact hR.refl _
  | succ n ih =>
      have hnext := hR.next p c
      rw [PageCursor.take]
      split
      · next p' c' h => rwa [h] at hnext
      · next o p' c' h =>
        rw [h] at hnext
        exact hR.trans hnext (ih p' c')

lemma drain (p : PageCursor) (c : Connection) : R c (p.drain c).2.2 := by
  fun_induction PageCursor.drain p c with
  | case1 p c p' c' h =>
      have hnext := hR.next p c
      rwa [h] at hnext
  | case2 p c o p' c' h os p'' c'' hrest ih =>
      have hnext := hR.next p c
      rw [h] at hnext
      rw [hrest] at ih
      exact hR.trans hnext ih

lemma collect (p : PageCursor) (c : Connection) : R c (p.collect c).2.2 := by
  fun_induction PageCursor.collect p c with
  | case1 p c p' c' h =>
      have hnext := hR.next p c
      rwa [h] at hnext
  | case2 p c p' c' e h =>
      have hnext := hR.next p c
      rwa [h] at hnext
  | case3 p c entry p' c' h rest p'' c'' hrest ih =>
      have hnext := hR.next p c
      rw [h] at hnext
      rw [hrest] at ih
      exact hR.trans hnext ih

end KeptByQueries

end Connection

/-- Whether a step does nothing to a connection but ask the directory, if it does anything. -/
def Step.onlyAsks : Step → Bool
  | .enableLog | .disableLog | .flushLog | .onHandle _ | .dryRun _ _ => false
  | _ => true

/-- **A step that only asks** keeps what queries keep. -/
theorem Connection.KeptByQueries.step {R : Connection → Connection → Prop} (hR : KeptByQueries R)
    (s : Session) (step : Step) (hstep : step.onlyAsks = true) :
    R s.connection (s.run step).2.connection := by
  cases step with
  | select q => exact hR.run _ _
  | selectOne q => exact hR.run _ _
  | get b => exact hR.run _ _
  | getWithAttributes b attributes =>
      show R s.connection (b.getWithAttributes attributes s.connection).2
      rw [QueryBuilder.getWithAttributes]
      split <;> exact hR.run _ _
  | first b => exact hR.run _ _
  | find b uid => exact hR.run _ _
  | openCursor name q limit => exact hR.refl _
  | pull name count =>
      rw [Session.run]
      split
      · exact hR.refl _
      · exact hR.pull _ _ _
  | collect name =>
      rw [Session.run]
      split
      · exact hR.refl _
      · exact hR.collect _ _
  | stream name count =>
      rw [Session.run]
      split
      · exact hR.refl _
      · cases count with
        | none => exact hR.drain _ _
        | some n => exact hR.take _ _ _
  | readLog => exact hR.refl _
  | _ => simp [Step.onlyAsks] at hstep

end DirectorySearch
