import DirectorySearch.Proofs.Directory.CursorExchanges
import DirectorySearch.Proofs.Directory.Overlap

/-!
# Cursors do not disturb each other

Cursors share their connection with each other, with searches, with whoever switches the query log and
with dry runs that start and end at any time.  What one of them does can nevertheless be told without
the others, from its own requests and what came back for them.

* `Step.spares` — a step that may ask the cursor of a name, but neither opens nor closes it.
* `Shared.performed` — the steps that are performed, each with the session in which it is.
* `Session.heard`, `Session.handed`, `Step.calls` — what a cursor hears in a step, what it hands out and
  how often it is asked.
* `Session.alone` — in one step, a cursor and another that is fed what the first hears hand out the same
  and stay the same.  A step that does not ask the cursor does not touch it.
* `Shared.alone` — so they do in a whole run.
* **`cursors_apart`** — from its opening on, a cursor does what it would do alone.
-/

namespace DirectorySearch

/-! ## Steps, and the cursor of a name -/

/-- Whether a step neither opens nor closes the cursor of a name.  A step that holds others is not asked:
it stands for its moves. -/
def Step.spares (name : String) : Step → Bool
  | .openCursor other _ _ | .collect other | .stream other _ => other ≠ name
  | .onHandle _ | .dryRun _ _ => false
  | _ => true

def Move.spares (name : String) : Move → Bool
  | .perform step => step.spares name
  | _ => true

/-- How often a step asks the cursor of a name. -/
def Step.calls (name : String) : Step → Nat
  | .pull other count => if other = name then count else 0
  | _ => 0

namespace Session

/-- The requests of the cursor of a name during a step, each with what comes back for it. -/
def heard (s : Session) (name : String) : Step → List (CompiledQuery × Except TransportError Json)
  | .pull other count =>
    if other = name then
      match s.cursors.lookup name with
      | none => []
      | some p => p.heard s.connection count
    else []
  | _ => []

/-- What the cursor of a name hands out during a step. -/
def handed (s : Session) (name : String) (step : Step) :
    List (Option (Except ConnectionError Json)) :=
  match step with
  | .pull other _ =>
    if other = name then
      match (s.run step).1 with
      | .pulled outcomes _ => outcomes
      | _ => []
    else []
  | _ => []

variable {s : Session} {name : String} {step : Step}

lemma profile_run (h : step.spares name = true) :
    (s.run step).2.connection.profile = s.connection.profile := by
  have hasks : Connection.KeptByQueries fun c c' => c'.profile = c.profile :=
    { refl := fun _ => rfl
      trans := fun h₁ h₂ => h₂.trans h₁
      run := fun c q => (c.run_answer q).2
      events := fun _ _ => rfl }
  cases step with
  | enableLog | disableLog | flushLog => rfl
  | onHandle | dryRun => simp [Step.spares] at h
  | _ => exact hasks.step s _ rfl

lemma lookup_putCursor_ne (s : Session) (p : PageCursor) {other : String} (h : other ≠ name) :
    (s.putCursor other p).cursors.lookup name = s.cursors.lookup name := by
  rw [putCursor, List.lookup_cons, beq_eq_false_iff_ne.mpr h.symm, lookup_filter_ne, if_neg h.symm]

lemma lookup_putCursor (s : Session) (name : String) (p : PageCursor) :
    (s.putCursor name p).cursors.lookup name = some p :=
  List.lookup_cons_self

lemma lookup_closeCursor_ne (s : Session) {other : String} (h : other ≠ name) :
    (s.closeCursor other).cursors.lookup name = s.cursors.lookup name := by
  rw [closeCursor, lookup_filter_ne, if_neg h.symm]

/-- **A step that does not ask a cursor** leaves it as it is. -/
lemma lookup_run (hstep : step.spares name = true) (hask : ∀ count, step ≠ .pull name count) :
    (s.run step).2.cursors.lookup name = s.cursors.lookup name := by
  cases step with
  | openCursor other q limit => exact lookup_putCursor_ne _ _ (by simpa [Step.spares] using hstep)
  | pull other count =>
      have hother : other ≠ name := fun h => hask count (h ▸ rfl)
      rw [run]
      split
      · rfl
      · exact lookup_putCursor_ne _ _ hother
  | collect other =>
      rw [run]
      split
      · rfl
      · exact lookup_closeCursor_ne _ (by simpa [Step.spares] using hstep)
  | stream other count =>
      rw [run]
      split
      · rfl
      · exact lookup_closeCursor_ne _ (by simpa [Step.spares] using hstep)
  | onHandle | dryRun => simp [Step.spares] at hstep
  | _ => rfl

lemma unasked (s : Session) (hask : ∀ count, step ≠ .pull name count) :
    step.calls name = 0 ∧ s.heard name step = [] ∧ s.handed name step = [] := by
  cases step with
  | pull other count =>
      have hother : other ≠ name := fun h => hask count (h ▸ rfl)
      simp [Step.calls, heard, handed, hother]
  | _ => exact ⟨rfl, rfl, rfl⟩

lemma run_pull {p : PageCursor} (hp : s.cursors.lookup name = some p) (count : Nat) :
    s.run (.pull name count) = (.pulled (p.pull s.connection count).1
        (p.pull s.connection count).2.1.pages,
      { s.putCursor name (p.pull s.connection count).2.1 with
        connection := (p.pull s.connection count).2.2 }) := by
  rw [run, hp]

lemma lookup_run_isSome (hstep : step.spares name = true)
    (hopen : (s.cursors.lookup name).isSome = true) :
    ((s.run step).2.cursors.lookup name).isSome = true := by
  rcases Classical.exists_or_forall_not (step = .pull name ·) with ⟨count, rfl⟩ | hask
  · obtain ⟨p, hp⟩ := Option.isSome_iff_exists.mp hopen
    rw [run_pull hp]
    show ((s.putCursor name _).cursors.lookup name).isSome = true
    rw [lookup_putCursor]
    rfl
  · rwa [lookup_run hstep hask]

/-- What a cursor hears in a step is what its connection is used for. -/
lemma heard_pull (s : Session) (name : String) (count : Nat) :
    s.connection.Heard (s.heard name (.pull name count))
      (s.run (.pull name count)).2.connection := by
  cases hp : s.cursors.lookup name with
  | none =>
      rw [run, heard, hp, if_pos rfl]
      exact .refl _
  | some p =>
      rw [run_pull hp, heard, hp, if_pos rfl]
      exact .pull p s.connection count

/-- **A step**, for a cursor and another one that is fed what the first hears: they hand out the same,
and are left the same. -/
theorem alone {p : PageCursor} {l : Connection} {answers : List (Except TransportError Json)}
    (hp : s.cursors.lookup name = some p) (hstep : step.spares name = true)
    (hl : l.Fed s.connection.profile ((s.heard name step).map Prod.snd ++ answers)) :
    (p.pull l (step.calls name)).1 = s.handed name step
      ∧ (s.run step).2.cursors.lookup name = some (p.pull l (step.calls name)).2.1
      ∧ (p.pull l (step.calls name)).2.2.Fed s.connection.profile answers
      ∧ (p.pull l (step.calls name)).2.2.sent = l.sent ++ (s.heard name step).map Prod.fst := by
  rcases Classical.exists_or_forall_not (step = .pull name ·) with ⟨count, rfl⟩ | hask
  · have hheard : s.heard name (.pull name count) = p.heard s.connection count := by
      rw [heard, hp, if_pos rfl]
    have hhanded : s.handed name (.pull name count) = (p.pull s.connection count).1 := by
      rw [handed, run_pull hp, if_pos rfl]
    have hcalls : (Step.pull name count).calls name = count := if_pos rfl
    rw [hheard] at hl
    obtain ⟨houtcomes, hcursor, hfed, hsent⟩ := p.pull_fed count hl
    rw [hcalls, hhanded, hheard, run_pull hp, hcursor]
    exact ⟨houtcomes, lookup_putCursor s name _, hfed, hsent⟩
  · obtain ⟨hcalls, hheard, hhanded⟩ := unasked s hask
    rw [hheard] at hl ⊢
    rw [hcalls, hhanded, lookup_run hstep hask]
    exact ⟨rfl, hp, hl, (List.append_nil _).symm⟩

end Session

/-! ## Runs -/

namespace Shared

/-- The steps that are performed, each with the session in which it is. -/
def performed (σ : Shared) : List Move → List (Session × Step)
  | [] => []
  | .perform step :: moves => (σ.session, step) :: (σ.move (.perform step)).performed moves
  | m :: moves => (σ.move m).performed moves

/-- A dry run that starts or ends does not touch a cursor. -/
lemma cursors_move {σ : Shared} {m : Move} (h : ∀ step, m ≠ .perform step) :
    (σ.move m).session.cursors = σ.session.cursors
      ∧ (σ.move m).session.connection.profile = σ.session.connection.profile := by
  cases m with
  | perform step => exact absurd rfl (h step)
  | enter run => exact ⟨rfl, rfl⟩
  | leave run ending =>
      rw [move]
      split
      · exact ⟨rfl, rfl⟩
      · cases ending <;> exact ⟨rfl, rfl⟩

end Shared

/-- How often the cursor of a name is asked in some steps. -/
def callsIn (name : String) : List (Session × Step) → Nat
  | [] => 0
  | m :: seen => m.2.calls name + callsIn name seen

/-- What it hears. -/
def heardIn (name : String) (seen : List (Session × Step)) :
    List (CompiledQuery × Except TransportError Json) :=
  seen.flatMap fun m => m.1.heard name m.2

/-- What it hands out. -/
def handedIn (name : String) (seen : List (Session × Step)) :
    List (Option (Except ConnectionError Json)) :=
  seen.flatMap fun m => m.1.handed name m.2

/-- **A run**, for a cursor and another one that is fed what the first hears. -/
theorem Shared.alone {σ : Shared} {name : String} {moves : List Move} {p : PageCursor}
    {l : Connection} {answers : List (Except TransportError Json)}
    (hmoves : moves.all (Move.spares name) = true)
    (hp : σ.session.cursors.lookup name = some p)
    (hl : l.Fed σ.session.connection.profile
      ((heardIn name (σ.performed moves)).map Prod.snd ++ answers)) :
    let calls := callsIn name (σ.performed moves)
    (p.pull l calls).1 = handedIn name (σ.performed moves)
      ∧ (σ.moveAll moves).session.cursors.lookup name = some (p.pull l calls).2.1
      ∧ (p.pull l calls).2.2.Fed σ.session.connection.profile answers
      ∧ (p.pull l calls).2.2.sent = l.sent ++ (heardIn name (σ.performed moves)).map Prod.fst := by
  -- the step takes its answers from the front, and those for the moves behind it are still there
  induction moves generalizing σ p l with
  | nil => exact ⟨rfl, hp, hl, (List.append_nil _).symm⟩
  | cons m moves ih =>
      rw [List.all_cons, Bool.and_eq_true] at hmoves
      rcases Classical.exists_or_forall_not (m = .perform ·) with ⟨step, rfl⟩ | hm
      · have hprofile : (σ.move (.perform step)).session.connection.profile
            = σ.session.connection.profile := Session.profile_run hmoves.1
        have hheard : heardIn name (σ.performed (.perform step :: moves))
            = σ.session.heard name step
              ++ heardIn name ((σ.move (.perform step)).performed moves) := rfl
        rw [hheard, List.map_append, List.append_assoc] at hl
        obtain ⟨houtcomes, hcursor, hfed, hsent⟩ := Session.alone hp hmoves.1 hl
        rw [← hprofile] at hfed
        obtain ⟨houtcomes', hcursor', hfed', hsent'⟩ := ih hmoves.2 hcursor hfed
        intro calls
        have hpull : p.pull l calls = _ :=
          p.pull_add l (step.calls name) (callsIn name ((σ.move (.perform step)).performed moves))
        rw [hpull, houtcomes, houtcomes', hheard]
        refine ⟨rfl, hcursor', hprofile ▸ hfed', ?_⟩
        rw [hsent', hsent, List.map_append, List.append_assoc]
      · obtain ⟨hcursors, hprofile⟩ := cursors_move (σ := σ) hm
        have hseen : σ.performed (m :: moves) = (σ.move m).performed moves := by
          cases m with
          | perform step => exact absurd rfl (hm step)
          | enter | leave => rfl
        rw [hseen, ← hprofile] at hl
        rw [hseen, ← hprofile]
        exact ih hmoves.2 (by rw [hcursors, hp]) hl

/-- The cursor of a name is there in every step, and what it says of itself is what it is. -/
lemma Shared.pulled_of_performed {σ : Shared} {name : String} {moves : List Move} {s : Session}
    {count : Nat} (hmoves : moves.all (Move.spares name) = true)
    (hopen : (σ.session.cursors.lookup name).isSome = true)
    (h : (s, Step.pull name count) ∈ σ.performed moves) :
    ∃ p, (s.run (.pull name count)).1 = .pulled (s.handed name (.pull name count)) p.pages
      ∧ (s.run (.pull name count)).2.cursors.lookup name = some p := by
  induction moves generalizing σ with
  | nil => exact absurd h List.not_mem_nil
  | cons m moves ih =>
      rw [List.all_cons, Bool.and_eq_true] at hmoves
      cases m with
      | enter run => exact ih (σ := σ.move (.enter run)) hmoves.2 hopen h
      | leave run ending =>
          have hcursors := (cursors_move (σ := σ) (m := .leave run ending) (by simp)).1
          exact ih hmoves.2 (by rwa [hcursors]) h
      | perform step =>
          obtain ⟨p, hp⟩ := Option.isSome_iff_exists.mp hopen
          rcases List.mem_cons.mp h with hnow | hlater
          · obtain ⟨rfl, rfl⟩ := Prod.mk.inj hnow
            have hhanded : σ.session.handed name (.pull name count)
                = (p.pull σ.session.connection count).1 := by
              rw [Session.handed, Session.run_pull hp, if_pos rfl]
            rw [hhanded, Session.run_pull hp]
            exact ⟨_, rfl, Session.lookup_putCursor _ name _⟩
          · exact ih hmoves.2 (Session.lookup_run_isSome hmoves.1 hopen) hlater

/-! ## The result -/

/-- **A cursor that is opened on a shared connection** does what it would do alone. -/
structure CursorApart (σ : Shared) (name : String) (q : CompiledQuery) (limit : UInt32)
    (life : List Move) : Prop where
  /-- A lone cursor for the same query and limit, called as often and fed what this one hears, hands out
  the same and is left the same; it asks for the same, and all that it is fed is used up. -/
  alone :
    let opened := σ.move (.perform (.openCursor name q limit))
    let seen := opened.performed life
    let lone := Connection.feeding σ.session.connection.profile ((heardIn name seen).map Prod.snd)
    ∃ p c, (lone.cursor q limit).pull lone (callsIn name seen) = (handedIn name seen, p, c)
      ∧ (opened.moveAll life).session.cursors.lookup name = some p
      ∧ c.sent = (heardIn name seen).map Prod.fst
      ∧ c.transport.replies = []
  /-- What it hears in a step is what its connection is used for in that step, and what it hands out is
  the result of the step, with the number of pages it has read. -/
  steps : ∀ s count,
    (s, Step.pull name count)
        ∈ (σ.move (.perform (.openCursor name q limit))).performed life →
      s.connection.Heard (s.heard name (.pull name count)) (s.run (.pull name count)).2.connection
        ∧ ∃ p, (s.run (.pull name count)).1 = .pulled (s.handed name (.pull name count)) p.pages
          ∧ (s.run (.pull name count)).2.cursors.lookup name = some p

/-- **Cursors do not disturb each other.** -/
theorem cursors_apart (σ : Shared) {name : String} (q : CompiledQuery) (limit : UInt32)
    {life : List Move} (hlife : life.all (Move.spares name) = true) :
    CursorApart σ name q limit life where
  alone := by
    intro opened seen lone
    have hopen : opened.session.cursors.lookup name = some (lone.cursor q limit) :=
      Session.lookup_putCursor _ _ _
    have hfed : lone.Fed σ.session.connection.profile ((heardIn name seen).map Prod.snd ++ []) := by
      rw [List.append_nil]
      exact Connection.fed_feeding _ _
    obtain ⟨houtcomes, hcursor, hrest, hsent⟩ := opened.alone hlife hopen hfed
    exact ⟨_, _, Prod.ext houtcomes rfl, hcursor, hsent.trans (List.nil_append _), hrest.replies⟩
  steps s count h := by
    have hopen : (σ.move (.perform (.openCursor name q limit))).session.cursors.lookup name
        = some (σ.session.connection.cursor q limit) := Session.lookup_putCursor _ _ _
    exact ⟨s.heard_pull name count, Shared.pulled_of_performed hlife (by rw [hopen]; rfl) h⟩

/-- Two cursors that take turns, the log, and a dry run that starts between pages and breaks off. -/
theorem cursors_apart_two :
    let q : CompiledQuery := { filter := "uid pr", includeAttributes := "*" }
    let page : Exchange := fun _ => ⟨.ok (.array [.object [("uid", .string "u1")]]), []⟩
    let c : Connection :=
      { profile := .ofProvider "" .scim {}, transport := { replies := [page, page] } }
    let life : List Move := [.perform (.openCursor "b" q 2), .perform (.pull "a" 1),
      .perform .enableLog, .enter 0, .perform (.pull "b" 2), .perform (.select q),
      .perform (.pull "a" 1), .leave 0 .panic, .perform (.collect "b"), .perform (.pull "a" 1)]
    CursorApart ⟨⟨c, []⟩, []⟩ "a" q 3 life := by
  intro q page c life
  exact cursors_apart _ q 3 rfl

end DirectorySearch
