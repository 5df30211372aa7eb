import DirectorySearch.Directory.Script
import Mathlib.Data.List.Basic
import Mathlib.Tactic.Common

/-!
# A dry run puts the query log back

A dry run hands its guard to whoever ends it.  While it lasts, its steps may switch and empty the log
as they like and start dry runs of their own, each with its own guard, and the run may be broken off
between any two of them.  This file follows the guards.

* `Guard` — holds the log of a dry run until it is put back; `Guard.restore` does so once, and both
  ends of a dry run use it: `Guard.finish` and `Guard.drop`.
* `Act`, `Step.acts` — a script taken apart into the single acts of a machine (`Running.play`) whose
  stack holds the guards of the dry runs that are open.
* `Running.playAll_acts` — playing the acts of a step is running it.
* `Running.guards_take` — a script that is cut off anywhere leaves the guards that were there before it
  on the stack, below its own.
* **`dry_run_restores`** — however a dry run ends, the query log is as it was when it began.
-/

namespace DirectorySearch

/-! ## The guard of a dry run -/

/-- What a dry run has to put back, until that has been done. -/
structure Guard where
  wasLogging : Bool
  /-- The entries it had; nothing once they are back. -/
  previous : Option (List LoggedQuery)

def DryRun.guard (d : DryRun) : Guard := ⟨d.wasLogging, some d.previous⟩

namespace Guard

/-- Puts the log back, if that has not been done, and gives what was logged. -/
def restore (g : Guard) (c : Connection) : List LoggedQuery × Guard × Connection :=
  match g.previous with
  | none => ([], g, c)
  | some previous =>
    let (logged, c) := c.leaveDryRun ⟨g.wasLogging, previous⟩
    (logged, { g with previous := none }, c)

/-- The guard goes out of scope. -/
def drop (g : Guard) (c : Connection) : Connection :=
  if g.previous.isSome then (g.restore (c.note .dryRunInterrupted)).2.2 else c

/-- The dry run comes to its end: the log is put back, and then the guard goes out of scope. -/
def finish (g : Guard) (c : Connection) : List LoggedQuery × Connection :=
  let (logged, g, c) := g.restore c
  (logged, g.drop c)

def close (g : Guard) : Ending → Connection → Connection
  | .finish, c => (g.finish c).2
  | .drop, c | .panic, c => g.drop c

/-- A guard acts once: when the log is back, it does nothing more. -/
lemma drop_restore (g : Guard) (c c' : Connection) : (g.restore c).2.1.drop c' = c' := by
  obtain ⟨wasLogging, - | previous⟩ := g <;> rfl

lemma finish_eq (g : Guard) (c : Connection) :
    g.finish c = ((g.restore c).1, (g.restore c).2.2) :=
  congrArg (Prod.mk (g.restore c).1) (g.drop_restore c _)

lemma leave_eq (s : Session) (d : DryRun) (ending : Ending) (seen : List Observation) :
    (s.leave d ending seen).2 = { s with connection := d.guard.close ending s.connection } := by
  cases ending with
  | finish => rw [close, finish_eq]; rfl
  | drop => rfl
  | panic => rfl

end Guard

/-! ## Scripts act by act -/

/-- A single act of a script. -/
inductive Act where
  /-- An operation that holds no others. -/
  | perform (step : Step)
  | enter
  | leave (ending : Ending)

mutual

/-- The acts of a step. -/
def Step.acts : Step → List Act
  | .onHandle steps => Step.actsAll steps
  | .dryRun steps ending => .enter :: (Step.actsAll steps ++ [.leave ending])
  | step => [.perform step]

def Step.actsAll : List Step → List Act
  | [] => []
  | step :: steps => step.acts ++ Step.actsAll steps

end

/-- A script that is running: its session, and the guards of the dry runs that are open, the innermost
first. -/
structure Running where
  session : Session
  guards : List Guard := []

namespace Running

def play (σ : Running) : Act → Running
  | .perform step => { σ with session := (σ.session.run step).2 }
  | .enter =>
    let (d, c) := σ.session.connection.enterDryRun
    ⟨{ σ.session with connection := c }, d.guard :: σ.guards⟩
  | .leave ending =>
    match σ.guards with
    | [] => σ
    | g :: outer =>
      ⟨{ σ.session with connection := g.close ending σ.session.connection }, outer⟩

def playAll (σ : Running) (acts : List Act) : Running := acts.foldl play σ

/-- The guards of the innermost dry runs go out of scope, one after the other, until so many are left. -/
def unwind (σ : Running) (depth : Nat) : Running :=
  let opened := σ.guards.length - depth
  ⟨{ σ.session with
      connection := (σ.guards.take opened).foldl (fun c g => g.drop c) σ.session.connection },
    σ.guards.drop opened⟩

def on (σ : Running) (c : Connection) : Running := { σ with session := { σ.session with connection := c } }

lemma playAll_append (σ : Running) (acts more : List Act) :
    σ.playAll (acts ++ more) = (σ.playAll acts).playAll more :=
  List.foldl_append

mutual

/-- **Playing the acts of a step is running it**, with the same guards before and after. -/
lemma playAll_acts (step : Step) (σ : Running) :
    σ.playAll step.acts = { σ with session := (σ.session.run step).2 } := by
  cases step with
  | onHandle steps => exact playAll_actsAll steps σ
  | dryRun steps ending =>
      show ((σ.play .enter).playAll (Step.actsAll steps ++ [.leave ending])) = _
      rw [playAll_append, playAll_actsAll steps]
      exact congrArg (Running.mk · σ.guards) (Guard.leave_eq _ _ ending _).symm
  | _ => rfl

lemma playAll_actsAll (steps : List Step) (σ : Running) :
    σ.playAll (Step.actsAll steps) = { σ with session := (σ.session.performAll steps).2 } := by
  cases steps with
  | nil => rfl
  | cons step steps =>
      rw [Step.actsAll, playAll_append, playAll_acts step, playAll_actsAll steps]
      rfl

end

/-! ## Cutting a script off -/

lemma guards_take_perform (step : Step) (σ : Running) (k : Nat) :
    σ.guards <:+ (σ.playAll ([.perform step].take k)).guards := by
  cases k with
  | zero => exact List.suffix_refl _
  | succ k =>
      rw [List.take_succ_cons, List.take_nil]
      exact List.suffix_refl _

mutual

lemma guards_take_acts (step : Step) (σ : Running) (k : Nat) :
    σ.guards <:+ (σ.playAll (step.acts.take k)).guards := by
  cases step with
  | onHandle steps => exact guards_take steps σ k
  | dryRun steps ending =>
      cases k with
      | zero => exact List.suffix_refl _
      | succ k =>
          rcases Nat.lt_or_ge (Step.actsAll steps).length k with hk | hk
          · -- the run is over, and its guard is gone again
            rw [List.take_of_length_le (by simpa [Step.acts] using Nat.succ_le_of_lt hk)]
            simp only [playAll_acts, List.suffix_refl]
          · rw [Step.acts, List.take_succ_cons, List.take_append_of_le_length hk]
            exact (List.suffix_cons _ _).trans (guards_take steps (σ.play .enter) k)
  | _ => exact guards_take_perform _ σ k

/-- **A script that is cut off** leaves the guards that were there on the stack, below its own. -/
lemma guards_take (steps : List Step) (σ : Running) (k : Nat) :
    σ.guards <:+ (σ.playAll ((Step.actsAll steps).take k)).guards := by
  cases steps with
  | nil =>
      rw [Step.actsAll, List.take_nil]
      exact List.suffix_refl _
  | cons step steps =>
      rw [Step.actsAll, List.take_append, playAll_append]
      have hstep := guards_take_acts step σ k
      exact hstep.trans (guards_take steps _ _)

end

/-- Guards go out of scope up to one that has not acted: what it holds is put back. -/
lemma unwind_guard {σ : Running} {opened outer : List Guard} {d : DryRun}
    (hσ : σ.guards = opened ++ d.guard :: outer) :
    (σ.unwind outer.length).guards = outer
      ∧ (σ.unwind outer.length).session.connection.log = ⟨d.wasLogging, d.previous⟩
      ∧ (σ.unwind outer.length).session.connection.pretending = false := by
  have hguards : σ.guards = (opened ++ [d.guard]) ++ outer := by
    rw [hσ, List.append_assoc, List.singleton_append]
  have hopened : σ.guards.length - outer.length = (opened ++ [d.guard]).length := by
    rw [hguards, List.length_append, Nat.add_sub_cancel]
  simp only [unwind, hopened]
  rw [hguards, List.take_left, List.drop_left, List.foldl_append]
  exact ⟨rfl, rfl, rfl⟩

/-! ## The result -/

/-- **A running script is back where it was**, as far as dry runs are concerned. -/
structure Restored (σ σ' : Running) : Prop where
  /-- The dry runs that are open are those that were. -/
  guards : σ'.guards = σ.guards
  /-- The query log is on if it was, and has the entries it had, in their order. -/
  log : σ'.session.connection.log = σ.session.connection.log
  /-- Outside all dry runs, none is on. -/
  outside : σ.guards = [] → σ'.session.connection.pretending = false

end Running

/-- **A dry run puts the query log back.** -/
structure DryRunRestores (σ : Running) (steps : List Step) : Prop where
  /-- The acts of a dry run are what it does. -/
  acts : ∀ ending, (σ.playAll (Step.dryRun steps ending).acts).session
    = (σ.session.run (.dryRun steps ending)).2
  /-- When its steps are done, it may come to its end, be given up or break off. -/
  ended : ∀ ending, σ.Restored (σ.playAll (Step.dryRun steps ending).acts)
  /-- It may be cut off before any of its acts; the guards of the dry runs that are open inside go out of
  scope before its own. -/
  interrupted : ∀ k, σ.Restored
    ((σ.playAll (.enter :: (Step.actsAll steps).take k)).unwind σ.guards.length)
  /-- It may be cut off in the middle of an act, whatever connection that leaves behind. -/
  interrupted_within : ∀ k c, σ.Restored
    (((σ.playAll (.enter :: (Step.actsAll steps).take k)).on c).unwind σ.guards.length)

/-- **However a dry run ends, the query log is as it was when it began.** -/
theorem dry_run_restores (σ : Running) (steps : List Step) : DryRunRestores σ steps := by
  have hwithin : ∀ k c, σ.Restored
      (((σ.playAll (.enter :: (Step.actsAll steps).take k)).on c).unwind σ.guards.length) := by
    intro k c
    -- the guard of the run lies on those from before, and below those that its steps left
    obtain ⟨opened, hopened⟩ := Running.guards_take steps (σ.play .enter) k
    obtain ⟨hguards, hlog, hlive⟩ :=
      Running.unwind_guard (σ := (σ.playAll (.enter :: (Step.actsAll steps).take k)).on c) hopened.symm
    exact ⟨hguards, hlog, fun _ => hlive⟩
  refine
    { acts := fun ending => ?_
      ended := fun ending => ?_
      interrupted := fun k => hwithin k _
      interrupted_within := hwithin }
  · rw [Running.playAll_acts]
  · rw [Running.playAll_acts]
    cases ending <;> exact ⟨rfl, rfl, fun _ => rfl⟩

end DirectorySearch
