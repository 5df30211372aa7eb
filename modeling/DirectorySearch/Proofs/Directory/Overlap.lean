import DirectorySearch.Proofs.Directory.Queries
import DirectorySearch.Proofs.Directory.Restoration
import Mathlib.Data.List.Induction

/-!
# Dry runs of several tasks

Tasks that share a connection start and end their dry runs in any order.  Each run keeps the query log
as it found it and puts that back, whatever the others have done in the meantime.

* `Shared` — a session, and what the dry runs that are open will put back, by number, the youngest
  first.  `Move` is what a task does, and `Shared.move` what becomes of it.
* `Shared.moveAll_moves` — a script is a list of moves in which each run ends before those around it.
* `Shared.Schedule` — moves that only ask, and only inside dry runs.
* `Shared.exists_enter` — what an open run will put back is the log at its start.
* `Shared.origin` — the log that the oldest open run will put back.  No move changes it but the end of
  that run while others are open.
* **`overlapping_dry_runs`** — when all have ended, the log is the one that the last of them found.

If the run that found the log of old ends first, a later one puts back what it has found instead: the
queries of the other.
-/

namespace DirectorySearch

/-! ## Moves -/

structure Shared where
  session : Session
  /-- The dry runs that are open, the youngest first. -/
  dryRuns : List (Nat × DryRun) := []

inductive Move where
  /-- An operation that holds no others. -/
  | perform (step : Step)
  | enter (run : Nat)
  | leave (run : Nat) (ending : Ending)

namespace Shared

def move (σ : Shared) : Move → Shared
  | .perform step => { σ with session := (σ.session.run step).2 }
  | .enter run =>
    let (d, c) := σ.session.connection.enterDryRun
    ⟨{ σ.session with connection := c }, (run, d) :: σ.dryRuns⟩
  | .leave run ending =>
    match σ.dryRuns.lookup run with
    | none => σ
    | some d =>
      ⟨{ σ.session with connection := d.guard.close ending σ.session.connection },
        σ.dryRuns.filter (·.1 ≠ run)⟩

def moveAll (σ : Shared) (moves : List Move) : Shared := moves.foldl move σ

def log (σ : Shared) : QueryLog := σ.session.connection.log

lemma moveAll_append (σ : Shared) (moves more : List Move) :
    σ.moveAll (moves ++ more) = (σ.moveAll moves).moveAll more :=
  List.foldl_append

end Shared

/-! ## Scripts -/

mutual

/-- The moves of a step inside so many dry runs. -/
def Step.moves (depth : Nat) : Step → List Move
  | .onHandle steps => Step.movesAll depth steps
  | .dryRun steps ending =>
    .enter depth :: (Step.movesAll (depth + 1) steps ++ [.leave depth ending])
  | step => [.perform step]

def Step.movesAll (depth : Nat) : List Step → List Move
  | [] => []
  | step :: steps => step.moves depth ++ Step.movesAll depth steps

end

namespace Shared

/-- The youngest run ends as it does in a script. -/
lemma move_leave (s : Session) (d : DryRun) {runs : List (Nat × DryRun)} {depth : Nat}
    (h : ∀ r ∈ runs, r.1 < depth) (ending : Ending) (seen : List Observation) :
    (Shared.mk s ((depth, d) :: runs)).move (.leave depth ending)
      = ⟨(s.leave d ending seen).2, runs⟩ := by
  have hrest : runs.filter (·.1 ≠ depth) = runs :=
    List.filter_eq_self.mpr fun r hr => by simpa using Nat.ne_of_lt (h r hr)
  simp only [move, List.lookup_cons_self]
  rw [List.filter_cons_of_neg (by simp), hrest, Guard.leave_eq]

mutual

/-- **Making the moves of a step is running it**, with the same dry runs open before and after. -/
theorem moveAll_moves (step : Step) {σ : Shared} {depth : Nat} (h : ∀ r ∈ σ.dryRuns, r.1 < depth) :
    σ.moveAll (step.moves depth) = { σ with session := (σ.session.run step).2 } := by
  cases step with
  | onHandle steps => exact moveAll_movesAll steps h
  | dryRun steps ending =>
      have hinner : ∀ r ∈ (σ.move (.enter depth)).dryRuns, r.1 < depth + 1 := by
        intro r hr
        rcases List.mem_cons.mp hr with rfl | hr
        · exact Nat.lt_succ_self _
        · exact Nat.lt_succ_of_lt (h r hr)
      show (σ.move (.enter depth)).moveAll (Step.movesAll (depth + 1) steps
        ++ [.leave depth ending]) = _
      rw [moveAll_append, moveAll_movesAll steps hinner]
      exact move_leave _ _ h ending _
  | _ => rfl

theorem moveAll_movesAll (steps : List Step) {σ : Shared} {depth : Nat}
    (h : ∀ r ∈ σ.dryRuns, r.1 < depth) :
    σ.moveAll (Step.movesAll depth steps)
      = { σ with session := (σ.session.performAll steps).2 } := by
  cases steps with
  | nil => rfl
  | cons step steps =>
      rw [Step.movesAll, moveAll_append, moveAll_moves step h]
      exact moveAll_movesAll steps (σ := { σ with session := (σ.session.run step).2 }) h

end

/-! ## What an open run will put back -/

/-- The runs behind a move that neither starts nor ends a run of this number still hold it. -/
lemma lookup_move {σ : Shared} {m : Move} {run : Nat} (henter : m ≠ .enter run)
    (hleave : ∀ ending, m ≠ .leave run ending) :
    (σ.move m).dryRuns.lookup run = σ.dryRuns.lookup run := by
  cases m with
  | perform step => rfl
  | enter other =>
      have hne : run ≠ other := fun h => henter (h ▸ rfl)
      show List.lookup run ((other, _) :: σ.dryRuns) = _
      rw [List.lookup_cons, beq_eq_false_iff_ne.mpr hne]
  | leave other ending =>
      have hne : run ≠ other := fun h => hleave ending (h ▸ rfl)
      rw [move]
      split
      · rfl
      · rw [lookup_filter_ne, if_neg hne]

/-- The log that a run found and will put back. -/
def found (d : DryRun) : QueryLog := ⟨d.wasLogging, d.previous⟩

/-- **What an open run will put back is the log at its start.** -/
theorem exists_enter {σ : Shared} {moves : List Move} {run : Nat} {d : DryRun}
    (hσ : σ.dryRuns.lookup run = none)
    (h : (σ.moveAll moves).dryRuns.lookup run = some d) :
    ∃ before between, moves = before ++ .enter run :: between
      ∧ (∀ m ∈ between, m ≠ .enter run ∧ ∀ ending, m ≠ .leave run ending)
      ∧ found d = (σ.moveAll before).log := by
  induction moves using List.reverseRecOn with
  | nil =>
      rw [show (σ.moveAll []).dryRuns.lookup run = none from hσ] at h
      cases h
  | append_singleton moves m ih =>
      rw [moveAll_append] at h
      by_cases henter : m = .enter run
      · subst henter
        have hd : (σ.moveAll moves).session.connection.enterDryRun.1 = d := by
          have hhead : List.lookup run ((run, _) :: (σ.moveAll moves).dryRuns) = some d := h
          rw [List.lookup_cons_self] at hhead
          exact Option.some.inj hhead
        exact ⟨moves, [], rfl, by simp, hd ▸ rfl⟩
      rcases Classical.exists_or_forall_not (m = .leave run ·) with ⟨ending, rfl⟩ | hleave
      · -- behind its end, no run of this number is open
        exfalso
        rw [show (σ.moveAll moves).moveAll [.leave run ending]
          = (σ.moveAll moves).move (.leave run ending) from rfl, move] at h
        split at h
        · next hnone =>
          rw [hnone] at h
          cases h
        · rw [lookup_filter_ne, if_pos rfl] at h
          cases h
      · rw [show (σ.moveAll moves).moveAll [m] = (σ.moveAll moves).move m from rfl,
          lookup_move henter hleave] at h
        obtain ⟨before, between, rfl, hbetween, hfound⟩ := ih h
        refine ⟨before, between ++ [m], by simp, fun other hother => ?_, hfound⟩
        rcases List.mem_append.mp hother with hother | hother
        · exact hbetween other hother
        · rw [List.mem_singleton.mp hother]
          exact ⟨henter, hleave⟩

/-! ## Schedules -/

/-- What tasks may do at a time: ask, inside a dry run, and start and end dry runs, of which no two that
are open have one number. -/
def Allows (σ : Shared) : Move → Prop
  | .perform step => σ.dryRuns ≠ [] ∧ step.onlyAsks = true
  | .enter run => σ.dryRuns.lookup run = none
  | .leave run _ => (σ.dryRuns.lookup run).isSome = true

def Schedule (σ : Shared) : List Move → Prop
  | [] => True
  | m :: moves => σ.Allows m ∧ (σ.move m).Schedule moves

/-- No run ends while it is the oldest of several. -/
def OldestEndsLast (σ : Shared) : List Move → Prop
  | [] => True
  | m :: moves =>
    (∀ run ending, m = .leave run ending →
        σ.dryRuns.getLast?.map Prod.fst = some run → σ.dryRuns.length = 1)
      ∧ (σ.move m).OldestEndsLast moves

/-- The log that the oldest open run will put back, or that there is. -/
def origin (σ : Shared) : QueryLog :=
  match σ.dryRuns.getLast? with
  | none => σ.log
  | some r => found r.2

lemma log_close (d : DryRun) (ending : Ending) (c : Connection) :
    (d.guard.close ending c).log = found d := by
  cases ending <;> rfl

lemma origin_move {σ : Shared} {m : Move} (hm : σ.Allows m)
    (holdest : ∀ run ending, m = .leave run ending →
      σ.dryRuns.getLast?.map Prod.fst = some run → σ.dryRuns.length = 1) :
    (σ.move m).origin = σ.origin := by
  cases m with
  | perform step =>
      cases hlast : σ.dryRuns.getLast? with
      | none => exact absurd (List.getLast?_eq_none_iff.mp hlast) hm.1
      | some r => simp only [origin, move, hlast]
  | enter run =>
      cases hruns : σ.dryRuns with
      | nil => simp [origin, move, hruns, found, log, Connection.enterDryRun]
      | cons r runs =>
          have hlast := List.getLast?_eq_some_getLast (List.cons_ne_nil r runs)
          simp [origin, move, hruns, hlast]
  | leave run ending =>
      obtain ⟨d, hd⟩ := Option.isSome_iff_exists.mp hm
      obtain ⟨runs, r, hruns⟩ : ∃ runs r, σ.dryRuns = runs ++ [r] := by
        rcases List.eq_nil_or_concat σ.dryRuns with hnil | ⟨runs, r, h⟩
        · rw [hnil] at hd
          cases hd
        · exact ⟨runs, r, by rw [h, List.concat_eq_append]⟩
      have hlast : σ.dryRuns.getLast? = some r := by rw [hruns, List.getLast?_concat]
      have horigin : σ.origin = found r.2 := by rw [origin, hlast]
      rw [horigin, move, hd]
      by_cases hr : r.1 = run
      · -- the oldest run ends, so it is the only one
        have hone := holdest run ending rfl (by rw [hlast, Option.map_some, hr])
        obtain rfl : runs = [] := by simpa [hruns] using hone
        obtain ⟨number, d'⟩ := r
        subst hr
        obtain rfl : d' = d := by simpa [hruns] using hd
        simp only [hruns, origin, List.nil_append, ne_eq, not_true_eq_false, decide_false,
          Bool.false_eq_true, not_false_eq_true, List.filter_cons_of_neg, List.filter_nil]
        exact log_close d' ending _
      · have hkeep : (σ.dryRuns.filter (·.1 ≠ run)).getLast? = some r := by
          rw [hruns, List.filter_append, List.filter_singleton]
          simp [hr]
        simp only [origin, hkeep]

lemma origin_moveAll {σ : Shared} {moves : List Move} (hmoves : σ.Schedule moves)
    (holdest : σ.OldestEndsLast moves) : (σ.moveAll moves).origin = σ.origin := by
  induction moves generalizing σ with
  | nil => rfl
  | cons m moves ih =>
      exact (ih hmoves.2 holdest.2).trans (origin_move hmoves.1 holdest.1)

lemma Schedule.last {σ : Shared} {moves : List Move} {m : Move} (h : σ.Schedule (moves ++ [m])) :
    (σ.moveAll moves).Allows m := by
  induction moves generalizing σ with
  | nil => exact h.1
  | cons _ moves ih => exact ih h.2

end Shared

/-! ## The result -/

/-- **What becomes of the query log** when tasks make dry runs that overlap. -/
structure DryRunsOverlap (σ : Shared) (moves : List Move) : Prop where
  /-- It is, with its entries, the log that was there when the run began that ends last. -/
  last : ∃ before run between ending,
    moves = before ++ .enter run :: (between ++ [.leave run ending])
      ∧ (∀ m ∈ between, m ≠ .enter run ∧ ∀ e, m ≠ .leave run e)
      ∧ (σ.moveAll moves).log = (σ.moveAll before).log
  /-- So it is as it was, if of the runs that overlap the one that began first ends last. -/
  restored : σ.OldestEndsLast moves → (σ.moveAll moves).log = σ.log

/-- **When all dry runs have ended, the log is the one that the last of them found.** -/
theorem overlapping_dry_runs {σ : Shared} {moves : List Move} (hnone : σ.dryRuns = [])
    (hmoves : σ.Schedule moves) (hne : moves ≠ []) (hended : (σ.moveAll moves).dryRuns = []) :
    DryRunsOverlap σ moves where
  last := by
    rcases List.eq_nil_or_concat moves with rfl | ⟨init, m, rfl⟩
    · exact absurd rfl hne
    rw [List.concat_eq_append] at hmoves hended ⊢
    have hallowed := hmoves.last
    rw [Shared.moveAll_append] at hended
    cases m with
    | perform step => exact absurd hended hallowed.1
    | enter run => exact absurd hended (List.cons_ne_nil _ _)
    | leave run ending =>
        obtain ⟨d, hd⟩ := Option.isSome_iff_exists.mp hallowed
        obtain ⟨before, between, rfl, hbetween, hfound⟩ :=
          Shared.exists_enter (by rw [hnone]; rfl) hd
        refine ⟨before, run, between, ending, by simp, hbetween, ?_⟩
        rw [Shared.moveAll_append, ← hfound]
        show ((σ.moveAll _).move (.leave run ending)).log = _
        rw [Shared.move, hd]
        exact Shared.log_close d ending _
  restored holdest := by
    have horigin := Shared.origin_moveAll hmoves holdest
    rw [Shared.origin, hended, Shared.origin, hnone] at horigin
    exact horigin

/-- Two runs one inside the other, a third that overlaps the second, and a query. -/
theorem overlapping_dry_runs_three :
    let q : CompiledQuery := { filter := "uid pr", includeAttributes := "*" }
    let c : Connection :=
      { profile := .ofProvider "" .scim {}, transport := {}, log := ⟨false, [⟨q, .zero false⟩]⟩ }
    let moves : List Move := [.enter 0, .enter 1, .perform (.select q), .enter 2, .leave 1 .drop,
      .leave 2 .panic, .leave 0 .finish]
    DryRunsOverlap ⟨⟨c, []⟩, []⟩ moves := by
  intro q c moves
  have hquery : ∀ σ : Shared, σ.dryRuns ≠ [] → σ.Allows (.perform (.select q)) := fun _ h => ⟨h, rfl⟩
  refine overlapping_dry_runs rfl ?_ (List.cons_ne_nil _ _) rfl
  exact ⟨rfl, rfl, hquery _ (List.cons_ne_nil _ _), rfl, rfl, rfl, rfl, trivial⟩

/-- **Where the run that began first ends first**, the log is lost, and stays switched on. -/
theorem overlapping_dry_runs_lose_log :
    let q : CompiledQuery := { filter := "uid pr", includeAttributes := "*" }
    let c : Connection :=
      { profile := .ofProvider "" .scim {}, transport := {}, log := ⟨false, [⟨q, .zero false⟩]⟩ }
    let σ : Shared := ⟨⟨c, []⟩, []⟩
    let moves : List Move := [.enter 0, .enter 1, .leave 0 .finish, .leave 1 .finish]
    σ.Schedule moves ∧ (σ.moveAll moves).dryRuns = [] ∧ (σ.moveAll moves).log = ⟨true, []⟩
      ∧ (σ.moveAll moves).log ≠ σ.log := by
  intro q c σ moves
  have hlog : (σ.moveAll moves).log = ⟨true, []⟩ := rfl
  refine ⟨⟨rfl, rfl, rfl, rfl, trivial⟩, rfl, hlog, ?_⟩
  rw [hlog]
  exact fun h => Bool.noConfusion (congrArg QueryLog.enabled h)

end DirectorySearch
