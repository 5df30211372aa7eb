import DirectorySearch.Proofs.Directory.Queries
import Mathlib.Tactic.Common

/-!
# When a dry run sends nothing

A dry run is one flag of the connection: it is set when the run starts and cleared when the run ends.
A run inside another therefore clears it for both, and the steps that follow in the outer run are sent.
This file says exactly which steps those are.

* `Connection.KeepsMode` — operations that leave the flag alone, and send nothing while it is set.
  Every operation but the two ends of a dry run is one.
* `Step.holdsDryRun` — steps that start a dry run and end it.
* `Session.pretending_run` — what a step does to the flag: it stays, or is cleared by such a step.
* `Session.Executes` — the steps that are executed while a script runs, each with the number of dry
  runs that are open around it and the steps performed since the innermost of them began.
* **`Session.dry_run_iff`** — inside a dry run, a step is kept from the directory exactly if no dry run
  has ended since the innermost open one began.
-/

namespace DirectorySearch

/-! ## Operations that leave the flag alone -/

/-- The flag of the dry run is as it was, and if it was set, nothing was sent. -/
structure Connection.KeepsMode (c c' : Connection) : Prop where
  /-- The flag is as it was. -/
  pretending : c'.pretending = c.pretending
  /-- Nothing was sent if it was set. -/
  sent : c.pretending = true → c'.sent = c.sent

namespace Connection.KeepsMode

variable {c c₁ c₂ : Connection}

lemma refl (c : Connection) : c.KeepsMode c := ⟨rfl, fun _ => rfl⟩

lemma trans (h₁ : c.KeepsMode c₁) (h₂ : c₁.KeepsMode c₂) : c.KeepsMode c₂ where
  pretending := h₂.pretending.trans h₁.pretending
  sent h := (h₂.sent (h₁.pretending.trans h)).trans (h₁.sent h)

lemma run (c : Connection) (q : CompiledQuery) : c.KeepsMode (c.run q).2 := by
  cases hc : c.pretending with
  | true =>
      rw [Connection.run, if_pos hc]
      exact ⟨rfl, fun _ => rfl⟩
  | false =>
      refine ⟨?_, fun h => absurd (hc.symm.trans h) (by decide)⟩
      rw [Connection.run, hc, if_neg (by decide)]
      dsimp only
      split <;> exact hc

/-- Cursors and steps that only ask are made of queries, so they keep the flag as well. -/
lemma keptByQueries : KeptByQueries KeepsMode where
  refl := refl
  trans := trans
  run := run
  events _ _ := ⟨rfl, fun _ => rfl⟩

end Connection.KeepsMode

/-! ## What a step does to the flag -/

mutual

/-- Whether a step starts a dry run, itself or on another handle. -/
def Step.holdsDryRun : Step → Bool
  | .onHandle steps => Step.anyHoldsDryRun steps
  | .dryRun _ _ => true
  | _ => false

/-- Whether one of some steps does. -/
def Step.anyHoldsDryRun : List Step → Bool
  | [] => false
  | step :: steps => step.holdsDryRun || Step.anyHoldsDryRun steps

end

lemma Step.anyHoldsDryRun_eq_false_iff {steps : List Step} :
    Step.anyHoldsDryRun steps = false ↔ ∀ step ∈ steps, step.holdsDryRun = false := by
  induction steps with
  | nil => simp [Step.anyHoldsDryRun]
  | cons step steps ih => simp [Step.anyHoldsDryRun, ih]

namespace Session

mutual

/-- **A step without a dry run leaves the flag alone**, and sends nothing while it is set. -/
theorem run_keepsMode (step : Step) (s : Session) (h : step.holdsDryRun = false) :
    s.connection.KeepsMode (s.run step).2.connection := by
  cases step with
  | enableLog => exact ⟨rfl, fun _ => rfl⟩
  | disableLog => exact ⟨rfl, fun _ => rfl⟩
  | flushLog => exact ⟨rfl, fun _ => rfl⟩
  | onHandle steps => exact performAll_keepsMode steps s h
  | dryRun steps ending => simp [Step.holdsDryRun] at h
  | _ => exact Connection.KeepsMode.keptByQueries.step s _ rfl

/-- Steps without a dry run leave the flag alone. -/
theorem performAll_keepsMode : ∀ (steps : List Step) (s : Session),
    Step.anyHoldsDryRun steps = false → s.connection.KeepsMode (s.performAll steps).2.connection
  | [], s, _ => .refl _
  | step :: steps, s, h => by
      rw [Step.anyHoldsDryRun, Bool.or_eq_false_iff] at h
      exact (run_keepsMode step s h.1).trans (performAll_keepsMode steps (s.run step).2 h.2)

end

lemma leave_pretending (s : Session) (guard : DryRun) (ending : Ending) (seen : List Observation) :
    (s.leave guard ending seen).2.connection.pretending = false := by
  cases ending <;> rfl

mutual

/-- **A step that holds a dry run clears the flag**, and every other step leaves it alone. -/
theorem pretending_run (step : Step) (s : Session) :
    (s.run step).2.connection.pretending = (s.connection.pretending && !step.holdsDryRun) := by
  cases step with
  | onHandle steps => exact pretending_performAll steps s
  | dryRun steps ending =>
      rw [Step.holdsDryRun, Bool.not_true, Bool.and_false]
      exact leave_pretending _ _ ending _
  | _ =>
      refine (run_keepsMode _ s ?_).pretending.trans ?_
      · rfl
      · exact (Bool.and_true _).symm

/-- So do some steps, one after the other. -/
theorem pretending_performAll (steps : List Step) (s : Session) :
    (s.performAll steps).2.connection.pretending
      = (s.connection.pretending && !Step.anyHoldsDryRun steps) := by
  cases steps with
  | nil => simp [performAll, Step.anyHoldsDryRun]
  | cons step steps =>
      show ((s.run step).2.performAll steps).2.connection.pretending = _
      rw [pretending_performAll steps, pretending_run step, Step.anyHoldsDryRun, Bool.not_or,
        Bool.and_assoc]

end

/-! ## Steps in the middle of a script -/

/-- **A step is executed while a script runs**: in which session, inside how many dry runs, and after
which steps of the innermost of them. -/
inductive Executes : Session → List Step → Nat → List Step → Session → Step → Prop where
  /-- The first step of a script, which comes after nothing. -/
  | first (s : Session) (step : Step) (steps : List Step) : Executes s (step :: steps) 0 [] s step
  /-- A step behind the first, in no further dry run. -/
  | behind {s s' : Session} {step t : Step} {steps past : List Step} :
    Executes (s.run step).2 steps 0 past s' t → Executes s (step :: steps) 0 (step :: past) s' t
  /-- A step behind the first, inside a dry run that began there. -/
  | behind_inside {s s' : Session} {step t : Step} {steps past : List Step} {depth : Nat} :
    Executes (s.run step).2 steps (depth + 1) past s' t →
      Executes s (step :: steps) (depth + 1) past s' t
  /-- A step on another handle. -/
  | onHandle {s s' : Session} {t : Step} {inner steps past : List Step} {depth : Nat} :
    Executes s inner depth past s' t → Executes s (.onHandle inner :: steps) depth past s' t
  /-- A step of a dry run. -/
  | dryRun {s s' : Session} {t : Step} {inner steps past : List Step} {depth : Nat}
      {ending : Ending} :
    Executes { s with connection := s.connection.enterDryRun.2 } inner depth past s' t →
      Executes s (.dryRun inner ending :: steps) (depth + 1) past s' t

/-- The flag in the middle of a script: inside a dry run it is set until another dry run has ended. -/
lemma Executes.pretending {s s' : Session} {script past : List Step} {depth : Nat} {t : Step}
    (h : s.Executes script depth past s' t) :
    s'.connection.pretending
      = ((decide (0 < depth) || s.connection.pretending) && !Step.anyHoldsDryRun past) := by
  induction h with
  | first s step steps => simp [Step.anyHoldsDryRun]
  | behind _ ih => simp [ih, pretending_run, Step.anyHoldsDryRun, Bool.and_assoc]
  | behind_inside _ ih => simpa using ih
  | onHandle _ ih => exact ih
  | dryRun _ ih => simpa [Connection.enterDryRun] using ih

/-- **When a dry run keeps a step from the directory**: the flag is set and nothing is sent, exactly if
no dry run has ended since the innermost open one began. -/
theorem dry_run_iff {s s' : Session} {script past : List Step} {depth : Nat} {t : Step}
    (h : s.Executes script (depth + 1) past s' t) :
    (s'.connection.pretending = true ∧
        (t.holdsDryRun = false → (s'.run t).2.connection.sent = s'.connection.sent))
      ↔ ∀ u ∈ past, u.holdsDryRun = false := by
  rw [← Step.anyHoldsDryRun_eq_false_iff, h.pretending]
  constructor
  · rintro ⟨hflag, -⟩
    simpa using hflag
  · intro hpast
    have hflag : s'.connection.pretending = true := by
      rw [h.pretending, hpast]
      simp
    exact ⟨by simp [hpast], fun ht => (run_keepsMode t s' ht).sent hflag⟩

/-- A query behind a switch of the query log is kept from the directory. -/
theorem dry_run_iff_logging :
    let q : CompiledQuery := { filter := "uid pr", includeAttributes := "*" }
    let s : Session := ⟨{ profile := .ofProvider "" .scim {}, transport := {} }, []⟩
    ∃ past s', s.Executes [.dryRun [.enableLog, .select q] .drop] 1 past s' (.select q)
      ∧ s'.connection.pretending = true
      ∧ ((Step.select q).holdsDryRun = false →
          (s'.run (.select q)).2.connection.sent = s'.connection.sent) := by
  intro q s
  have hstep : s.Executes [.dryRun [.enableLog, .select q] .drop] 1 [.enableLog] _ (.select q) :=
    .dryRun (.behind (.first _ _ _))
  refine ⟨_, _, hstep, (dry_run_iff hstep).mpr fun u hu => ?_⟩
  rw [List.mem_singleton.mp hu]
  rfl

/-- **A query behind a dry run inside a dry run is sent.** -/
theorem dry_run_nested_sends :
    let q : CompiledQuery := { filter := "uid pr", includeAttributes := "*" }
    let s : Session := ⟨{ profile := .ofProvider "" .scim {}, transport := {} }, []⟩
    ∃ past s',
      s.Executes [.dryRun [.dryRun [] .finish, .select q] .finish] 1 past s' (.select q)
        ∧ s'.connection.pretending = false
        ∧ s'.connection.sent = []
        ∧ (s'.run (.select q)).2.connection.sent = [q] :=
  ⟨[.dryRun [] .finish], _, .dryRun (.behind (.first _ _ _)), rfl, rfl, rfl⟩

end Session

end DirectorySearch
