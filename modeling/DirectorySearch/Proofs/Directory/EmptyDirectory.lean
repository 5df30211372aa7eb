import DirectorySearch.Proofs.Directory.Silence

/-!
# A dry run is a run against an empty directory

A script cannot tell a dry run from a run on a new connection to a directory without entries, apart from
the time its queries take: its steps give the same, and the query log is the same.

* `Step.allUseOnly` — scripts that ask no cursor but those they open; `Step.allKeepLog` — scripts that
  leave the query log on and do not empty it; `Step.sizeAll` — how many queries they may run.
* `Observation.outline` — what is seen of a step, without times, and without what went over the wire.
* `Observation.Blank` — no entries were found, and a cursor that was asked has read one page.
* `Session.Mirrors` — a session in a dry run and one on an empty directory, with the same log and the
  same cursors.  **`Session.run_mirrors`** is the step and `Session.performAll_mirrors` the script that
  leads from one such pair to another.
* **`dry_run_is_empty_run`** — the result.

The two connections never meet: `Step.Quietly` says what a step does on either, from its cursors alone,
and a step that does the same to both keeps them a pair.
-/

namespace DirectorySearch

/-! ## Scripts -/

mutual

/-- The names of the cursors that a step opens. -/
def Step.opens : Step → List String
  | .openCursor name _ _ => [name]
  | .onHandle steps | .dryRun steps _ => Step.opensAll steps
  | _ => []

def Step.opensAll : List Step → List String
  | [] => []
  | step :: steps => step.opens ++ Step.opensAll steps

end

mutual

/-- Whether a step asks only cursors of these names, besides those that it has opened. -/
def Step.usesOnly (known : List String) : Step → Bool
  | .pull name _ | .collect name | .stream name _ => known.contains name
  | .onHandle steps | .dryRun steps _ => Step.allUseOnly known steps
  | _ => true

def Step.allUseOnly (known : List String) : List Step → Bool
  | [] => true
  | step :: steps => step.usesOnly known && Step.allUseOnly (known ++ step.opens) steps

end

mutual

/-- Whether a step neither switches the query log off nor empties it. -/
def Step.keepsLog : Step → Bool
  | .disableLog | .flushLog => false
  | .onHandle steps | .dryRun steps _ => Step.allKeepLog steps
  | _ => true

def Step.allKeepLog : List Step → Bool
  | [] => true
  | step :: steps => step.keepsLog && Step.allKeepLog steps

end

mutual

/-- How many steps hold no others.  On an empty directory each of these runs at most one query. -/
def Step.size : Step → Nat
  | .onHandle steps | .dryRun steps _ => Step.sizeAll steps
  | _ => 1

def Step.sizeAll : List Step → Nat
  | [] => 0
  | step :: steps => step.size + Step.sizeAll steps

end

/-! ## What is seen -/

/-- A logged query without its time. -/
def LoggedQuery.outline (l : LoggedQuery) : LoggedQuery := { l with time := .zero false }

mutual

/-- A result without times. -/
def StepResult.outline : StepResult → StepResult
  | .log entries => .log (entries.map LoggedQuery.outline)
  | .onHandle seen => .onHandle (Observation.outlines seen)
  | .dryRun seen logged => .dryRun (Observation.outlines seen) (logged.map (·.map LoggedQuery.outline))
  | result => result

/-- What is seen of a step, without times, and without what was sent and whether a dry run was on: the
result, whether the query log is on, and how many entries it has. -/
def Observation.outline : Observation → Observation
  | .step result _ _ logging logged => .step result.outline [] false logging logged

def Observation.outlines : List Observation → List Observation
  | [] => []
  | seen :: more => seen.outline :: Observation.outlines more

end

mutual

/-- **Nothing was found**: searches have no entries, and a cursor that was asked has read one page and
given nothing. -/
def StepResult.Blank : StepResult → Prop
  | .entries outcome => outcome = .ok []
  | .entry outcome => outcome = .ok none
  | .opened _ pages => pages = 0
  | .pulled outcomes pages => (∀ o ∈ outcomes, o = none) ∧ (outcomes ≠ [] → pages = 1)
  | .streamed outcomes => outcomes = []
  | .onHandle seen | .dryRun seen _ => Observation.AllBlank seen
  | .done | .log _ | .noCursor => True

def Observation.Blank : Observation → Prop
  | .step result _ _ _ _ => result.Blank

def Observation.AllBlank : List Observation → Prop
  | [] => True
  | seen :: more => seen.Blank ∧ Observation.AllBlank more

end

/-! ## Cursors by name -/

/-- Under some names, two sessions have the same cursors, and these are idle. -/
def SameCursors (known : List String) (cursors cursors' : List (String × PageCursor)) : Prop :=
  ∀ name ∈ known, cursors.lookup name = cursors'.lookup name
    ∧ ∀ p, cursors.lookup name = some p → p.Idle

namespace SameCursors

variable {known : List String} {cursors cursors' : List (String × PageCursor)}

lemma put (h : SameCursors known cursors cursors') (name : String) {p : PageCursor} (hp : p.Idle) :
    SameCursors (known ++ [name]) ((name, p) :: cursors.filter (·.1 ≠ name))
      ((name, p) :: cursors'.filter (·.1 ≠ name)) := by
  intro other hother
  by_cases hname : other = name
  · subst hname
    simp only [List.lookup_cons_self, Option.some.injEq, true_and]
    rintro _ rfl
    exact hp
  · have hknown : other ∈ known := by simpa [hname] using hother
    simpa only [List.lookup_cons, beq_eq_false_iff_ne.mpr hname, lookup_filter_ne, if_neg hname]
      using h other hknown

lemma mono {more : List String} (h : SameCursors (known ++ more) cursors cursors') :
    SameCursors known cursors cursors' :=
  fun name hname => h name (List.mem_append_left _ hname)

lemma close (h : SameCursors known cursors cursors') (name : String) :
    SameCursors known (cursors.filter (·.1 ≠ name)) (cursors'.filter (·.1 ≠ name)) := by
  intro other hother
  rw [lookup_filter_ne, lookup_filter_ne]
  split
  · exact ⟨rfl, by simp⟩
  · exact h other hother

end SameCursors

/-! ## A step on a silent connection -/

/-- What a step does to a session whose connection is silent: what it gives, which queries it runs, and
the cursors afterwards. -/
def Step.Quietly (step : Step) (s : Session) (result : StepResult) (queries : List CompiledQuery)
    (cursors : List (String × PageCursor)) : Prop :=
  ∀ n, s.connection.Silent (n + 1) →
    ∃ c', s.run step = (result, ⟨c', cursors⟩) ∧ s.connection.Quiet queries n c'

namespace Step.Quietly

variable {s : Session} {step : Step} {p : PageCursor} {name : String}

lemma entries {q : CompiledQuery} (h : s.run step = s.after .entries (s.connection.select q)) :
    step.Quietly s (.entries (.ok [])) [q] s.cursors := by
  intro n hc
  obtain ⟨c', hselect, hquiet⟩ := hc.select q
  exact ⟨c', by rw [h, hselect]; rfl, hquiet⟩

lemma entry {q : CompiledQuery}
    (h : s.run step
      = s.after .entry ((s.connection.select q).1.map List.head?, (s.connection.select q).2)) :
    step.Quietly s (.entry (.ok none)) [q] s.cursors := by
  intro n hc
  obtain ⟨c', hselect, hquiet⟩ := hc.select q
  exact ⟨c', by rw [h, hselect]; rfl, hquiet⟩

/-- A step that leaves the connection alone. -/
lemma still {result : StepResult} {cursors : List (String × PageCursor)}
    (h : s.run step = (result, ⟨s.connection, cursors⟩)) : step.Quietly s result [] cursors :=
  fun _ hc => ⟨s.connection, h, .refl hc.of_succ⟩

lemma pull (hname : s.cursors.lookup name = some p) (hp : p.Idle) (k : Nat) :
    (Step.pull name (k + 1)).Quietly s (.pulled (List.replicate (k + 1) none) 1) p.asking
      ((name, p.asked) :: s.cursors.filter (·.1 ≠ name)) := by
  intro n hc
  obtain ⟨c', hpull, hquiet⟩ := hp.pull hc k
  refine ⟨c', ?_, hquiet⟩
  rw [Session.run, hname]
  dsimp only
  rw [hpull, ← hp.pages_asked]
  rfl

lemma collect (hname : s.cursors.lookup name = some p) (hp : p.Idle) :
    (Step.collect name).Quietly s (.entries (.ok [])) p.asking (s.cursors.filter (·.1 ≠ name)) := by
  intro n hc
  obtain ⟨c', hcollect, hquiet⟩ := hp.collect hc
  refine ⟨c', ?_, hquiet⟩
  rw [Session.run, hname]
  dsimp only
  rw [hcollect]
  rfl

lemma streamAll (hname : s.cursors.lookup name = some p) (hp : p.Idle) :
    (Step.stream name none).Quietly s (.streamed []) p.asking (s.cursors.filter (·.1 ≠ name)) := by
  intro n hc
  obtain ⟨c', hdrain, hquiet⟩ := hp.drain hc
  refine ⟨c', ?_, hquiet⟩
  rw [Session.run, hname]
  dsimp only
  rw [hdrain]
  rfl

lemma stream (hname : s.cursors.lookup name = some p) (hp : p.Idle) (k : Nat) :
    (Step.stream name (some (k + 1))).Quietly s (.streamed []) p.asking
      (s.cursors.filter (·.1 ≠ name)) := by
  intro n hc
  obtain ⟨c', htake, hquiet⟩ := hp.take hc k
  refine ⟨c', ?_, hquiet⟩
  rw [Session.run, hname]
  dsimp only
  rw [htake]
  rfl

end Step.Quietly

/-! ## Two connections with the same log -/

/-- The log is on and holds the queries that were sent. -/
structure Connection.Complete (c : Connection) : Prop where
  enabled : c.log.enabled = true
  logged : c.loggedQueries = c.sent

/-- **A connection in a dry run mirrors one to an empty directory**, which answers so many more queries:
their logs agree, and searches are read by pages of one size. -/
structure Connection.Mirrors (n : Nat) (d r : Connection) : Prop where
  dry : d.pretending = true
  live : r.pretending = false
  silent : r.Silent n
  pagination : d.profile.pagination = r.profile.pagination
  enabled : d.log.enabled = r.log.enabled
  logged : d.loggedQueries = r.loggedQueries

namespace Connection

variable {n : Nat} {c c' d d' r r' : Connection} {queries : List CompiledQuery}

/-- The same queries on both lead to such a pair again. -/
lemma Mirrors.quiet (h : d.Mirrors (n + 1) r) (hd : d.Quiet queries n d') (hr : r.Quiet queries n r') :
    d'.Mirrors n r' where
  dry := hd.pretending.trans h.dry
  live := hr.pretending.trans h.live
  silent := hr.silent
  pagination := by rw [hd.profile, hr.profile, h.pagination]
  enabled := by rw [hd.enabled, hr.enabled, h.enabled]
  logged := by rw [hd.logged, hr.logged, h.logged, h.enabled]

lemma Mirrors.of_succ (h : d.Mirrors (n + 1) r) : d.Mirrors n r :=
  { h with silent := h.silent.of_succ }

lemma Mirrors.switch (h : d.Mirrors n r) (on : Bool) :
    Mirrors n { d with log := d.log.setEnabled on } { r with log := r.log.setEnabled on } :=
  { h with enabled := rfl }

lemma Mirrors.flush (h : d.Mirrors n r) : d.flushLog.Mirrors n r.flushLog :=
  { h with logged := rfl }

/-- Outside a dry run, a log that is on goes on holding what was sent. -/
lemma Quiet.complete (h : c.Quiet queries n c') (hlive : c.pretending = false) (hc : c.Complete) :
    c'.Complete where
  enabled := h.enabled.trans hc.enabled
  logged := by
    rw [h.logged, h.sent, hc.enabled, hlive, hc.logged]
    rfl

lemma Mirrors.length_log (h : d.Mirrors n r) : d.log.entries.length = r.log.entries.length := by
  simpa [loggedQueries] using congrArg List.length h.logged

lemma Mirrors.outline_log (h : d.Mirrors n r) :
    d.log.entries.map LoggedQuery.outline = r.log.entries.map LoggedQuery.outline := by
  have houtline : ∀ c : Connection, c.log.entries.map LoggedQuery.outline
      = c.loggedQueries.map fun q => ⟨q, .zero false⟩ := fun c => by
    rw [loggedQueries, List.map_map]
    rfl
  rw [houtline, houtline, h.logged]

end Connection

namespace Session

/-- **A session in a dry run mirrors one on an empty directory**: their connections do, and under some
names they have the same cursors. -/
structure Mirrors (known : List String) (n : Nat) (d r : Session) : Prop where
  connection : d.connection.Mirrors n r.connection
  cursors : SameCursors known d.cursors r.cursors

/-- What a step gives, and what becomes of the two sessions. -/
structure StepMirrors (known : List String) (n : Nat) (d r : Session) (step : Step) : Prop where
  outline : (d.run step).1.outline = (r.run step).1.outline
  blank : (d.run step).1.Blank
  mirrors : (d.run step).2.Mirrors (known ++ step.opens) n (r.run step).2
  complete : step.keepsLog = true → r.connection.Complete → (r.run step).2.connection.Complete

structure ScriptMirrors (known : List String) (n : Nat) (d r : Session) (steps : List Step) :
    Prop where
  outline : Observation.outlines (d.performAll steps).1 = Observation.outlines (r.performAll steps).1
  blank : Observation.AllBlank (d.performAll steps).1
  mirrors : (d.performAll steps).2.Mirrors (known ++ Step.opensAll steps) n (r.performAll steps).2
  logs : ∀ k, (d.performAll (steps.take k)).2.connection.log.entries.map LoggedQuery.outline
    = (r.performAll (steps.take k)).2.connection.log.entries.map LoggedQuery.outline
  complete : Step.allKeepLog steps = true → r.connection.Complete →
    (r.performAll steps).2.connection.Complete

variable {known : List String} {n : Nat} {d r : Session} {step : Step}

lemma Mirrors.quietly {result : StepResult} {queries : List CompiledQuery}
    {cursors cursors' : List (String × PageCursor)} (h : d.Mirrors known (n + 1) r)
    (hd : step.Quietly d result queries cursors) (hr : step.Quietly r result queries cursors')
    (hcursors : SameCursors (known ++ step.opens) cursors cursors') (hblank : result.Blank) :
    StepMirrors known n d r step := by
  obtain ⟨d', hrun, hquiet⟩ := hd n (.inl h.connection.dry)
  obtain ⟨r', hrun', hquiet'⟩ := hr n h.connection.silent
  exact
    { outline := by rw [hrun, hrun']
      blank := by rwa [hrun]
      mirrors := by
        rw [hrun, hrun']
        exact ⟨h.connection.quiet hquiet hquiet', hcursors⟩
      complete := fun _ hcomplete => by
        rw [hrun']
        exact hquiet'.complete h.connection.live hcomplete }

/-- What the result and the sessions afterwards have in common is seen. -/
lemma Mirrors.outline_observe {d' r' : Session} {result result' : StepResult}
    (h : d'.Mirrors known n r') (hresult : result.outline = result'.outline) :
    (observe d d' result).outline = (observe r r' result').outline := by
  show Observation.step _ _ _ _ _ = .step _ _ _ _ _
  rw [hresult, h.connection.enabled, h.connection.length_log]

/-- A step on a cursor does nothing if there is none. -/
lemma Mirrors.onCursor {name : String} (h : d.Mirrors known (n + 1) r) (hopens : step.opens = [])
    (hname : name ∈ known)
    (hnone : ∀ s : Session, s.cursors.lookup name = none → s.run step = (.noCursor, s))
    (hsome : ∀ p : PageCursor, p.Idle → d.cursors.lookup name = some p →
      r.cursors.lookup name = some p → StepMirrors known n d r step) :
    StepMirrors known n d r step := by
  obtain ⟨hsame, hidle⟩ := h.cursors name hname
  cases hlookup : d.cursors.lookup name with
  | some p => exact hsome p (hidle p hlookup) hlookup (hsame ▸ hlookup)
  | none =>
      refine h.quietly (.still (hnone d hlookup)) (.still (hnone r (hsame ▸ hlookup))) ?_ trivial
      rw [hopens, List.append_nil]
      exact h.cursors

lemma Mirrors.pull {name : String} (h : d.Mirrors known (n + 1) r) (hname : name ∈ known)
    (count : Nat) : StepMirrors known n d r (.pull name count) := by
  refine h.onCursor rfl hname (fun s hs => by rw [run, hs]) fun p hp hd hr => ?_
  have hput : ∀ {p : PageCursor}, p.Idle → SameCursors (known ++ [])
      ((name, p) :: d.cursors.filter (·.1 ≠ name)) ((name, p) :: r.cursors.filter (·.1 ≠ name)) :=
    fun hp => (List.append_nil known).symm ▸ (h.cursors.put name hp).mono
  cases count with
  | zero =>
      -- a cursor that is not asked reads nothing, so its page is still to come
      have hrun : ∀ s : Session, s.cursors.lookup name = some p → s.run (.pull name 0)
          = (.pulled [] p.pages, ⟨s.connection, (name, p) :: s.cursors.filter (·.1 ≠ name)⟩) :=
        fun s hs => by
          rw [run, hs]
          rfl
      exact h.quietly (.still (hrun d hd)) (.still (hrun r hr)) (hput hp)
        ⟨by simp, fun hne => absurd rfl hne⟩
  | succ k =>
      refine h.quietly (.pull hd hp k) (.pull hr hp k) (hput hp.asked) ⟨?_, fun _ => rfl⟩
      exact fun o ho => List.eq_of_mem_replicate ho

lemma Mirrors.collect {name : String} (h : d.Mirrors known (n + 1) r) (hname : name ∈ known) :
    StepMirrors known n d r (.collect name) := by
  refine h.onCursor rfl hname (fun s hs => by rw [run, hs]) fun p hp hd hr => ?_
  have hclose := (List.append_nil known).symm ▸ h.cursors.close name
  exact h.quietly (.collect hd hp) (.collect hr hp) hclose rfl

lemma Mirrors.stream {name : String} (h : d.Mirrors known (n + 1) r) (hname : name ∈ known)
    (count : Option Nat) : StepMirrors known n d r (.stream name count) := by
  refine h.onCursor rfl hname (fun s hs => by rw [run, hs]) fun p hp hd hr => ?_
  have hclose := (List.append_nil known).symm ▸ h.cursors.close name
  rcases count with - | - | k
  · exact h.quietly (.streamAll hd hp) (.streamAll hr hp) hclose rfl
  · have hrun : ∀ s : Session, s.cursors.lookup name = some p → s.run (.stream name (some 0))
        = (.streamed [], ⟨s.connection, s.cursors.filter (·.1 ≠ name)⟩) := fun s hs => by
      rw [run, hs]
      rfl
    exact h.quietly (.still (hrun d hd)) (.still (hrun r hr)) hclose rfl
  · exact h.quietly (.stream hd hp k) (.stream hr hp k) hclose rfl

mutual

/-- **A step leads from one such pair to another**, and gives the same on both. -/
theorem run_mirrors (step : Step) (d r : Session) {known : List String} {n : Nat}
    (hdry : step.holdsDryRun = false) (hown : step.usesOnly known = true)
    (h : d.Mirrors known (n + step.size) r) : StepMirrors known n d r step := by
  have hsame := (List.append_nil known).symm ▸ h.cursors
  cases step with
  | select q => exact h.quietly (.entries rfl) (.entries rfl) hsame rfl
  | selectOne q => exact h.quietly (.entry rfl) (.entry rfl) hsame rfl
  | get b => exact h.quietly (.entries rfl) (.entries rfl) hsame rfl
  | getWithAttributes b attributes =>
      have hrun : ∀ s : Session, s.run (.getWithAttributes b attributes)
          = s.after .entries (s.connection.select
              (if b.attributes = ["*"] then b.select attributes else b).compile) := by
        intro s
        rw [run, QueryBuilder.getWithAttributes]
        split <;> rfl
      exact h.quietly (.entries (hrun d)) (.entries (hrun r)) hsame rfl
  | first b => exact h.quietly (.entry rfl) (.entry rfl) hsame rfl
  | find b uid => exact h.quietly (.entry rfl) (.entry rfl) hsame rfl
  | openCursor name q limit =>
      have hcursor : d.connection.cursor q limit = r.connection.cursor q limit := by
        rw [Connection.cursor, Connection.cursor, h.connection.pagination]
      have hput := h.cursors.put name (PageCursor.idle_cursor r.connection q limit)
      refine h.quietly (.still ?_) (.still rfl) hput rfl
      rw [← hcursor]
      rfl
  | pull name count => exact h.pull (by simpa [Step.usesOnly] using hown) count
  | collect name => exact h.collect (by simpa [Step.usesOnly] using hown)
  | stream name count => exact h.stream (by simpa [Step.usesOnly] using hown) count
  | enableLog =>
      exact ⟨rfl, trivial, ⟨h.connection.of_succ.switch true, hsame⟩,
        fun _ hcomplete => ⟨rfl, hcomplete.logged⟩⟩
  | disableLog =>
      exact ⟨rfl, trivial, ⟨h.connection.of_succ.switch false, hsame⟩, by simp [Step.keepsLog]⟩
  | flushLog => exact ⟨rfl, trivial, ⟨h.connection.of_succ.flush, hsame⟩, by simp [Step.keepsLog]⟩
  | readLog =>
      exact ⟨congrArg StepResult.log h.connection.outline_log, trivial,
        ⟨h.connection.of_succ, hsame⟩, fun _ hcomplete => hcomplete⟩
  | onHandle steps =>
      have hsteps := performAll_mirrors steps d r hdry hown h
      exact ⟨congrArg StepResult.onHandle hsteps.outline, hsteps.blank, hsteps.mirrors,
        hsteps.complete⟩
  | dryRun steps ending => simp [Step.holdsDryRun] at hdry

theorem performAll_mirrors (steps : List Step) (d r : Session) {known : List String} {n : Nat}
    (hdry : Step.anyHoldsDryRun steps = false) (hown : Step.allUseOnly known steps = true)
    (h : d.Mirrors known (n + Step.sizeAll steps) r) : ScriptMirrors known n d r steps := by
  cases steps with
  | nil =>
      have hsame := (List.append_nil known).symm ▸ h.cursors
      refine ⟨rfl, trivial, ⟨h.connection, hsame⟩, fun k => ?_, fun _ hcomplete => hcomplete⟩
      rw [List.take_nil]
      exact h.connection.outline_log
  | cons step steps =>
      rw [Step.anyHoldsDryRun, Bool.or_eq_false_iff] at hdry
      rw [Step.allUseOnly, Bool.and_eq_true] at hown
      -- the replies for the steps behind are left over by the first
      rw [Step.sizeAll, Nat.add_comm step.size, ← Nat.add_assoc] at h
      have hstep := run_mirrors step d r hdry.1 hown.1 h
      have hsteps := performAll_mirrors steps _ _ hdry.2 hown.2 hstep.mirrors
      refine
        { outline :=
            congrArg₂ List.cons (hstep.mirrors.outline_observe hstep.outline) hsteps.outline
          blank := ⟨hstep.blank, hsteps.blank⟩
          mirrors := ?_
          logs := fun k => ?_
          complete := fun hkeep hcomplete => ?_ }
      · rw [Step.opensAll, ← List.append_assoc]
        exact hsteps.mirrors
      · cases k with
        | zero => exact h.connection.outline_log
        | succ k => exact hsteps.logs k
      · rw [Step.allKeepLog, Bool.and_eq_true] at hkeep
        exact hsteps.complete hkeep.2 (hstep.complete hkeep.1 hcomplete)

end

/-! ## The result -/

/-- The session at the start of a dry run. -/
def inDryRun (s : Session) : Session := { s with connection := s.connection.enterDryRun.2 }

/-- A new session on a directory that answers so many queries with the empty array, with its query log
switched on. -/
def onEmptyDirectory (f : Profile) (n : Nat) : Session :=
  ⟨{ profile := f, transport := { replies := List.replicate n .empty }, log := ⟨true, []⟩ }, []⟩

end Session

/-- **A dry run is a run against an empty directory**: what is seen of its steps and what it has logged
are told by another session. -/
structure IsEmptyRun (s : Session) (steps : List Step) (reference : Session)
    (seen : List Observation) (logged : List LoggedQuery) : Prop where
  /-- The dry run gives what is seen of its steps and, if it comes to its end, what it has logged. -/
  result : ∀ ending, (s.run (.dryRun steps ending)).1
    = .dryRun seen (if ending = .finish then some logged else none)
  /-- Step by step, the other session gives the same, apart from times. -/
  observed : Observation.outlines seen = Observation.outlines (reference.performAll steps).1
  /-- Its query log is the same after each step, apart from times. -/
  logs : ∀ k, (s.inDryRun.performAll (steps.take k)).2.connection.log.entries.map LoggedQuery.outline
    = (reference.performAll (steps.take k)).2.connection.log.entries.map LoggedQuery.outline
  /-- The dry run gives the log with which it ends up. -/
  returned : logged.map LoggedQuery.outline
    = (reference.performAll steps).2.connection.log.entries.map LoggedQuery.outline
  /-- Nothing is found, and a cursor that is asked reads one page. -/
  blank : Observation.AllBlank seen
  /-- If the log is left on and not emptied, the dry run has logged the queries that the other session
  sends, in order. -/
  requests : Step.allKeepLog steps = true →
    logged.map (·.query) = (reference.performAll steps).2.connection.sent

/-- **A new cursor reads exactly one page**: the first call asks for it and gives nothing, and no later
call does anything, on whatever connection. -/
structure ReadsOnePage (c : Connection) (q : CompiledQuery) (limit : UInt32) : Prop where
  first : ∃ c', (c.cursor q limit).next c = (none, (c.cursor q limit).asked, c')
    ∧ c'.loggedQueries
      = c.loggedQueries ++ if c.log.enabled then [q.page c.profile.pagination.pageSize none] else []
  later : ∀ c', (c.cursor q limit).asked.next c' = (none, (c.cursor q limit).asked, c')
  pages : (c.cursor q limit).pages = 0 ∧ (c.cursor q limit).asked.pages = 1
  /-- So it is when all is read at once. -/
  collect : ((c.cursor q limit).collect c).1 = .ok [] ∧ ((c.cursor q limit).collect c).2.1.pages = 1
  drain : ((c.cursor q limit).drain c).1 = [] ∧ ((c.cursor q limit).drain c).2.1.pages = 1

lemma readsOnePage {c : Connection} (hc : c.pretending = true) (q : CompiledQuery) (limit : UInt32) :
    ReadsOnePage c q limit := by
  have hidle := PageCursor.idle_cursor c q limit
  have hsilent : c.Silent 1 := .inl hc
  refine
    { first := ?_
      later := PageCursor.next_of_done hidle.asked.buffer (PageCursor.asked_done _)
      pages := ⟨hidle.pages, hidle.pages_asked⟩
      collect := ?_
      drain := ?_ }
  · obtain ⟨c', hnext, hquiet⟩ := hidle.next hsilent
    exact ⟨c', hnext, hquiet.logged⟩
  · obtain ⟨c', hcollect, -⟩ := hidle.collect hsilent
    rw [hcollect]
    exact ⟨rfl, hidle.pages_asked⟩
  · obtain ⟨c', hdrain, -⟩ := hidle.drain hsilent
    rw [hdrain]
    exact ⟨rfl, hidle.pages_asked⟩

/-- **A dry run of a script that asks only its own cursors, and holds no dry run itself, is a run on a new
connection to an empty directory**, whatever its name and however long its queries take. -/
theorem dry_run_is_empty_run (s : Session) {steps : List Step}
    (hdry : Step.anyHoldsDryRun steps = false) (hown : Step.allUseOnly [] steps = true)
    (name : String) (stopwatch : CompiledQuery → Binary64) (spare : Nat) :
    (∃ seen logged, IsEmptyRun s steps
      (.onEmptyDirectory { s.connection.profile with name, stopwatch } (Step.sizeAll steps + spare))
      seen logged)
    ∧ ∀ c : Connection, c.pretending = true → ∀ q limit, ReadsOnePage c q limit := by
  let r : Session :=
    .onEmptyDirectory { s.connection.profile with name, stopwatch } (Step.sizeAll steps + spare)
  have hsilent : r.connection.Silent (0 + Step.sizeAll steps) := by
    refine .inr ?_
    show _ <+: List.replicate (Step.sizeAll steps + spare) Exchange.empty
    rw [Nat.zero_add, List.replicate_add]
    exact List.prefix_append _ _
  have hstart : s.inDryRun.Mirrors [] (0 + Step.sizeAll steps) r :=
    ⟨⟨rfl, rfl, hsilent, rfl, rfl, rfl⟩, fun name hname => absurd hname List.not_mem_nil⟩
  have hrun := Session.performAll_mirrors steps s.inDryRun r hdry hown hstart
  refine ⟨⟨(s.inDryRun.performAll steps).1, (s.inDryRun.performAll steps).2.connection.log.entries, ?_⟩,
    fun c hc q limit => readsOnePage hc q limit⟩
  exact
    { result := fun ending => by cases ending <;> rfl
      observed := hrun.outline
      logs := hrun.logs
      returned := hrun.mirrors.connection.outline_log
      blank := hrun.blank
      requests := fun hkeep =>
        hrun.mirrors.connection.logged.trans (hrun.complete hkeep ⟨rfl, rfl⟩).logged }

/-- A search, and a cursor that is asked twice and then read to its end, with the log on before. -/
theorem dry_run_is_empty_run_cursor :
    let q : CompiledQuery := { filter := "uid pr", includeAttributes := "*" }
    let f : Profile := .ofProvider "" .pingDirectory ⟨100, "/cursor", "/size"⟩
    let s : Session := ⟨{ profile := f, transport := {}, log := ⟨true, [⟨q, .zero false⟩]⟩ }, []⟩
    let steps : List Step :=
      [.select q, .onHandle [.openCursor "a" q 7], .pull "a" 2, .readLog, .collect "a"]
    Step.anyHoldsDryRun steps = false ∧ Step.allUseOnly [] steps = true
      ∧ (∃ seen logged, IsEmptyRun s steps
          (.onEmptyDirectory { f with name := "", stopwatch := fun _ => .zero false } 5) seen logged)
      ∧ ∀ c : Connection, c.pretending = true → ∀ q limit, ReadsOnePage c q limit := by
  intro q f s steps
  have hdry : Step.anyHoldsDryRun steps = false := rfl
  have hown : Step.allUseOnly [] steps = true := rfl
  exact ⟨hdry, hown, dry_run_is_empty_run s hdry hown "" (fun _ => .zero false) 0⟩

end DirectorySearch
