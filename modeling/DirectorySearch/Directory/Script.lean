import DirectorySearch.Directory.Cursor

/-!
# Scripts

A script is a list of operations on one connection, with cursors that it opens and names, and with dry
runs that hold scripts of their own.  It says what is done and in which order, nothing more, so that a
law about every use of a connection can be stated about every script.

* `Step` — one operation; `Ending` — how a dry run is left.
* `Observation` — what is seen of a step: its result, the queries sent during it, and the state of the
  connection after it.
* **`Session.perform`** — one step; `Session.performAll` — a script.

A handle on the connection that a script uses is as good as any other: they share the connection, so a
step on another handle is the same step.
-/

namespace DirectorySearch

/-- How a dry run is left. -/
inductive Ending where
  /-- It comes to its end and gives the queries it has logged. -/
  | finish
  /-- It is given up. -/
  | drop
  /-- It breaks off with a failure. -/
  | panic
deriving DecidableEq, Repr

/-- One operation on a connection. -/
inductive Step where
  /-- Runs a query. -/
  | select (query : CompiledQuery)
  /-- Runs a query for its first entry. -/
  | selectOne (query : CompiledQuery)
  /-- Runs a query under construction. -/
  | get (query : QueryBuilder)
  /-- Runs a query under construction with these attributes, unless it has its own. -/
  | getWithAttributes (query : QueryBuilder) (attributes : List String)
  /-- Runs a query under construction for its first entry. -/
  | first (query : QueryBuilder)
  /-- Runs a query under construction for the entry of a user. -/
  | find (query : QueryBuilder) (uid : String)
  /-- Opens a cursor and names it. -/
  | openCursor (name : String) (query : CompiledQuery) (limit : UInt32)
  /-- Asks a cursor for its next entry, so many times. -/
  | pull (name : String) (count : Nat)
  /-- Reads a cursor to its end, or up to its first error, and closes it. -/
  | collect (name : String)
  /-- Reads all or at most so many outcomes of a cursor, and closes it. -/
  | stream (name : String) (count : Option Nat)
  /-- Switches the query log on. -/
  | enableLog
  /-- Switches the query log off. -/
  | disableLog
  /-- Empties the query log. -/
  | flushLog
  /-- Reads the query log. -/
  | readLog
  /-- Performs steps on another handle. -/
  | onHandle (steps : List Step)
  /-- Performs steps in a dry run. -/
  | dryRun (steps : List Step) (ending : Ending)
deriving Inhabited

mutual

/-- What a step gives. -/
inductive StepResult where
  /-- Nothing. -/
  | done
  /-- The entries of a search. -/
  | entries (outcome : Except ConnectionError (List Json))
  /-- The first entry of a search. -/
  | entry (outcome : Except ConnectionError (Option Json))
  /-- The state of a new cursor. -/
  | opened (budget pages : Nat)
  /-- The outcomes of asking a cursor, and how many pages it has read. -/
  | pulled (outcomes : List (Option (Except ConnectionError Json))) (pages : Nat)
  /-- The outcomes of a cursor. -/
  | streamed (outcomes : List (Except ConnectionError Json))
  /-- The query log. -/
  | log (entries : List LoggedQuery)
  /-- What was seen on another handle. -/
  | onHandle (steps : List Observation)
  /-- What was seen in a dry run, and what it has logged, if it came to its end. -/
  | dryRun (steps : List Observation) (logged : Option (List LoggedQuery))
  /-- There is no cursor of that name. -/
  | noCursor

/-- What is seen of a step. -/
inductive Observation where
  /-- The result, the queries sent during the step, and afterwards whether a dry run is on, whether the
  query log is on, and how many entries it has. -/
  | step (result : StepResult) (sent : List CompiledQuery) (pretending logging : Bool) (logged : Nat)

end

/-- A connection with the cursors that were opened on it. -/
structure Session where
  /-- The connection. -/
  connection : Connection
  /-- The cursors by name. -/
  cursors : List (String × PageCursor) := []

/-- What is left under the other names when a name is taken out. -/
theorem lookup_filter_ne {α β : Type} [BEq α] [LawfulBEq α] [DecidableEq α] (entries : List (α × β))
    (name other : α) :
    (entries.filter (·.1 ≠ name)).lookup other
      = if other = name then none else entries.lookup other := by
  induction entries with
  | nil => simp
  | cons entry entries ih =>
      obtain ⟨key, b⟩ := entry
      by_cases hkey : key = name
      · subst hkey
        rw [List.filter_cons_of_neg (by simp), ih, List.lookup_cons]
        by_cases hother : other = key
        · rw [if_pos hother, if_pos hother]
        · rw [if_neg hother, if_neg hother, beq_eq_false_iff_ne.mpr hother]
      · rw [List.filter_cons_of_pos (by simpa using hkey), List.lookup_cons, List.lookup_cons, ih]
        by_cases hother : other = key
        · subst hother
          simp [hkey]
        · rw [beq_eq_false_iff_ne.mpr hother]

namespace Session

/-- The session with a cursor put in the place of its name. -/
def putCursor (s : Session) (name : String) (p : PageCursor) : Session :=
  { s with cursors := (name, p) :: s.cursors.filter (·.1 ≠ name) }

/-- The session without the cursor of a name. -/
def closeCursor (s : Session) (name : String) : Session :=
  { s with cursors := s.cursors.filter (·.1 ≠ name) }

/-- The session after an operation on its connection. -/
def after (s : Session) {α : Type} (wrap : α → StepResult) (r : α × Connection) :
    StepResult × Session :=
  (wrap r.1, { s with connection := r.2 })

/-- The dry run over: what is seen of it, and the session afterwards. -/
def leave (s : Session) (guard : DryRun) (ending : Ending) (seen : List Observation) :
    StepResult × Session :=
  match ending with
  | .finish =>
    let (logged, c) := s.connection.leaveDryRun guard
    (.dryRun seen (some logged), { s with connection := c })
  | .drop | .panic =>
    let (_, c) := (s.connection.note .dryRunInterrupted).leaveDryRun guard
    (.dryRun seen none, { s with connection := c })

/-- What is seen of a step that led from one session to another. -/
def observe (before after : Session) (result : StepResult) : Observation :=
  let c := after.connection
  .step result (c.sent.drop before.connection.sent.length) c.pretending c.log.enabled
    c.log.entries.length

mutual

/-- The result of a step, and the session afterwards. -/
def run (s : Session) : Step → StepResult × Session
  | .select q => s.after .entries (s.connection.select q)
  | .selectOne q => s.after .entry (s.connection.selectOne q)
  | .get b => s.after .entries (b.get s.connection)
  | .getWithAttributes b attributes => s.after .entries (b.getWithAttributes attributes s.connection)
  | .first b => s.after .entry (b.first s.connection)
  | .find b uid => s.after .entry (b.find uid s.connection)
  | .openCursor name q limit =>
    let p := s.connection.cursor q limit
    (.opened p.budget p.pages, s.putCursor name p)
  | .pull name count =>
    match s.cursors.lookup name with
    | none => (.noCursor, s)
    | some p =>
      let (outcomes, p, c) := p.pull s.connection count
      (.pulled outcomes p.pages, { s.putCursor name p with connection := c })
  | .collect name =>
    match s.cursors.lookup name with
    | none => (.noCursor, s)
    | some p =>
      let (outcome, _, c) := p.collect s.connection
      (.entries outcome, { s.closeCursor name with connection := c })
  | .stream name count =>
    match s.cursors.lookup name with
    | none => (.noCursor, s)
    | some p =>
      let (outcomes, _, c) :=
        match count with
        | none => p.drain s.connection
        | some n => p.take s.connection n
      (.streamed outcomes, { s.closeCursor name with connection := c })
  | .enableLog => (.done, { s with connection := s.connection.enableLog })
  | .disableLog => (.done, { s with connection := s.connection.disableLog })
  | .flushLog => (.done, { s with connection := s.connection.flushLog })
  | .readLog => (.log s.connection.log.entries, s)
  | .onHandle steps =>
    let (seen, s) := performAll s steps
    (.onHandle seen, s)
  | .dryRun steps ending =>
    let (guard, c) := s.connection.enterDryRun
    let (seen, s) := performAll { s with connection := c } steps
    s.leave guard ending seen

/-- Performs a script. -/
def performAll (s : Session) : List Step → List Observation × Session
  | [] => ([], s)
  | step :: steps =>
    let (result, s₁) := run s step
    let (rest, s₂) := performAll s₁ steps
    (observe s s₁ result :: rest, s₂)

end

/-- **Performs a step**: what is seen of it, and the session afterwards. -/
def perform (s : Session) (step : Step) : Observation × Session :=
  let (result, s₁) := s.run step
  (observe s s₁ result, s₁)

theorem performAll_cons (s : Session) (step : Step) (steps : List Step) :
    s.performAll (step :: steps) =
      ((s.perform step).1 :: ((s.perform step).2.performAll steps).1,
        ((s.perform step).2.performAll steps).2) := rfl

end Session

end DirectorySearch
