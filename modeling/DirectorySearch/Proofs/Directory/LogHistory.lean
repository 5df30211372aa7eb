import DirectorySearch.Proofs.Directory.CursorHistory
import DirectorySearch.Proofs.Directory.DryRun
import DirectorySearch.Proofs.Directory.Queries
import Mathlib.Data.List.Basic
import Mathlib.Data.List.Induction

/-!
# The query log is the history

What stands in the query log can be told without it, from what went over the wire and when the log was
switched and emptied.

* `Incident`, `Session.account` — what a witness of a script notes down: the queries with what came back
  for them, and the switches and the emptying of the log.
* **`Incident.remembered`** — the queries of an account that a log has to hold: answered without an
  error while the log was on, and not followed by an emptying.
* `Connection.Asked` — what a connection is after some queries outside a dry run; every operation that
  only asks leads to such a state (`keptByQueries_asked`).
* `Remembers.run` — a step keeps the log equal to what is remembered.
* **`log_is_history`** — so it is after every script and before every step of one.
-/

namespace DirectorySearch

/-! ## Queries and what comes back -/

namespace Transport

/-- Queries that are sent one after the other, with what comes back for them. -/
def exchanges (t : Transport) (queries : List CompiledQuery) :
    List (CompiledQuery × Except TransportError Json) :=
  queries.zip (t.answers queries)

lemma answers_append (t : Transport) (queries more : List CompiledQuery) :
    t.answers (queries ++ more) = t.answers queries ++ (t.after queries).answers more := by
  induction queries generalizing t with
  | nil => rfl
  | cons q queries ih =>
      rw [List.cons_append, answers, ih]
      rfl

lemma length_answers (t : Transport) (queries : List CompiledQuery) :
    (t.answers queries).length = queries.length := by
  induction queries generalizing t with
  | nil => rfl
  | cons q queries ih => rw [answers, List.length_cons, List.length_cons, ih]

lemma exchanges_append (t : Transport) (queries more : List CompiledQuery) :
    t.exchanges (queries ++ more) = t.exchanges queries ++ (t.after queries).exchanges more := by
  rw [exchanges, answers_append, List.zip_append (t.length_answers queries).symm]
  rfl

lemma after_append (t : Transport) (queries more : List CompiledQuery) :
    t.after (queries ++ more) = (t.after queries).after more := by
  rw [after, List.foldl_append]
  rfl

end Transport

def answered (exchanges : List (CompiledQuery × Except TransportError Json)) : List CompiledQuery :=
  exchanges.filterMap fun
    | (q, .ok _) => some q
    | _ => none

lemma answered_append (exchanges more : List (CompiledQuery × Except TransportError Json)) :
    answered (exchanges ++ more) = answered exchanges ++ answered more :=
  List.filterMap_append

namespace Connection

/-- The queries in the log. -/
def loggedQueries (c : Connection) : List CompiledQuery := c.log.entries.map (·.query)

lemma loggedQueries_executed (c : Connection) (q : CompiledQuery) :
    (c.executed q).loggedQueries = c.loggedQueries ++ if c.log.enabled then [q] else [] := by
  show (c.log.record q _).entries.map _ = _
  rw [QueryLog.record_entries]
  split <;> simp [loggedQueries]

/-- **A connection that has sent some queries**: they were sent in this order, and those that came back
without an error were logged if the log is on. -/
structure Asked (c : Connection) (queries : List CompiledQuery) (c' : Connection) : Prop where
  pretending : c'.pretending = c.pretending
  sent : c'.sent = c.sent ++ queries
  transport : c'.transport = c.transport.after queries
  enabled : c'.log.enabled = c.log.enabled
  logged : c'.loggedQueries
    = c.loggedQueries ++ if c.log.enabled then answered (c.transport.exchanges queries) else []

namespace Asked

variable {c c₁ c₂ : Connection} {queries more : List CompiledQuery}

lemma refl (c : Connection) : c.Asked [] c where
  pretending := rfl
  sent := (List.append_nil _).symm
  transport := rfl
  enabled := rfl
  logged := by simp [Transport.exchanges, answered]

lemma trans (h₁ : c.Asked queries c₁) (h₂ : c₁.Asked more c₂) : c.Asked (queries ++ more) c₂ where
  pretending := h₂.pretending.trans h₁.pretending
  sent := by rw [h₂.sent, h₁.sent, List.append_assoc]
  transport := by rw [h₂.transport, h₁.transport, Transport.after_append]
  enabled := h₂.enabled.trans h₁.enabled
  logged := by
    rw [h₂.logged, h₁.logged, h₁.enabled, h₁.transport, Transport.exchanges_append, answered_append]
    cases c.log.enabled <;> simp

lemma run (hc : c.pretending = false) (q : CompiledQuery) : c.Asked [q] (c.run q).2 := by
  cases houtcome : (c.transport.send q).1.outcome with
  | error e =>
      rw [run_eq_error hc houtcome]
      refine ⟨rfl, rfl, rfl, rfl, ?_⟩
      simp [loggedQueries, sending, answered, Transport.exchanges, Transport.answers, houtcome]
  | ok reply =>
      rw [run_eq_ok hc houtcome]
      refine ⟨rfl, rfl, rfl, QueryLog.record_enabled _ _ _, ?_⟩
      refine (loggedQueries_executed _ q).trans ?_
      show c.loggedQueries ++ (if c.log.enabled then [q] else []) = _
      simp [answered, Transport.exchanges, Transport.answers, houtcome]

end Asked

/-- Outside a dry run, every operation that is made of queries sends some queries. -/
lemma keptByQueries_asked :
    KeptByQueries fun c c' => c.pretending = false → ∃ queries, c.Asked queries c' where
  refl c _ := ⟨[], .refl c⟩
  trans {c c₁ c₂} h₁ h₂ hc := by
    obtain ⟨queries, hqueries⟩ := h₁ hc
    obtain ⟨more, hmore⟩ := h₂ (hqueries.pretending.trans hc)
    exact ⟨queries ++ more, hqueries.trans hmore⟩
  run c q hc := ⟨[q], .run hc q⟩
  events c events _ :=
    ⟨[], rfl, (List.append_nil _).symm, rfl, rfl, (Asked.refl c).logged⟩

end Connection

/-! ## What happens during a script -/

/-- What a witness of a script notes down. -/
inductive Incident where
  | exchange (query : CompiledQuery) (outcome : Except TransportError Json)
  | switch (on : Bool)
  | flush

namespace Incident

def empties : Incident → Bool
  | .flush => true
  | _ => false

/-- Whether the log is on after some incidents: as the last switch says, and at first it is off. -/
def logging (account : List Incident) : Bool :=
  ((account.filterMap fun
    | .switch on => some on
    | _ => none).getLast?).getD false

/-- The queries that were sent. -/
def sent (account : List Incident) : List CompiledQuery :=
  account.filterMap fun
    | .exchange q _ => some q
    | _ => none

/-- The query that has to be remembered of the incident at a place, if there is one there: it was
answered without an error while the log was on, and the log was not emptied since. -/
def remembered? (account : List Incident) (i : Nat) : Option CompiledQuery :=
  match account[i]? with
  | some (.exchange q (.ok _)) =>
    if logging (account.take i) && !(account.drop (i + 1)).any empties then some q else none
  | _ => none

/-- **The queries that a log has to hold**, in order. -/
def remembered (account : List Incident) : List CompiledQuery :=
  (List.range account.length).filterMap (remembered? account)

variable {account : List Incident}

lemma sent_append (account more : List Incident) : sent (account ++ more) = sent account ++ sent more :=
  List.filterMap_append

lemma logging_exchange (q : CompiledQuery) (outcome : Except TransportError Json) :
    logging (account ++ [.exchange q outcome]) = logging account := by
  simp [logging]

lemma logging_switch (on : Bool) : logging (account ++ [.switch on]) = on := by
  simp [logging]

lemma logging_flush : logging (account ++ [.flush]) = logging account := by
  simp [logging]

/-- What is remembered of an earlier incident: the same as before, unless the last one empties the
log. -/
lemma remembered?_concat (x : Incident) {i : Nat} (hi : i < account.length) :
    remembered? (account ++ [x]) i = if x.empties then none else remembered? account i := by
  have htake : (account ++ [x]).take i = account.take i :=
    List.take_append_of_le_length (Nat.le_of_lt hi)
  have hdrop : (account ++ [x]).drop (i + 1) = account.drop (i + 1) ++ [x] :=
    List.drop_append_of_le_length hi
  unfold remembered?
  rw [List.getElem?_append_left hi, htake, hdrop, List.any_append, List.any_cons, List.any_nil,
    Bool.or_false]
  cases x.empties with
  | true =>
      simp only [Bool.or_true, Bool.not_true, Bool.and_false, Bool.false_eq_true, if_false, if_true]
      split <;> rfl
  | false => simp only [Bool.or_false, Bool.false_eq_true, if_false]

/-- What one more incident adds: its query, if it was answered while the log was on. -/
def added (account : List Incident) : Incident → List CompiledQuery
  | .exchange q (.ok _) => if logging account then [q] else []
  | _ => []

lemma remembered?_last (x : Incident) :
    (remembered? (account ++ [x]) account.length).toList = added account x := by
  unfold remembered?
  rw [List.getElem?_concat_length, List.take_left, List.drop_eq_nil_of_le (by simp)]
  rcases x with ⟨q, - | -⟩ | - | -
  · rfl
  · cases hlog : logging account <;> simp [added, hlog]
  · rfl
  · rfl

/-- What is remembered after one more incident. -/
lemma remembered_concat (x : Incident) :
    remembered (account ++ [x])
      = (if x.empties then [] else remembered account) ++ added account x := by
  have hearlier : (List.range account.length).filterMap (remembered? (account ++ [x]))
      = if x.empties then [] else remembered account := by
    rw [List.filterMap_congr fun i hi => remembered?_concat x (List.mem_range.mp hi)]
    cases x.empties <;> simp [remembered]
  rw [remembered, List.length_append, List.length_singleton, List.range_succ,
    List.filterMap_append, hearlier, ← remembered?_last]
  rfl

/-- What is remembered of a log is among what was sent. -/
lemma remembered_sublist (account : List Incident) : (remembered account).Sublist (sent account) := by
  induction account using List.reverseRecOn with
  | nil => exact List.Sublist.refl _
  | append_singleton account x ih =>
      rw [remembered_concat, sent_append]
      rcases x with ⟨q, - | -⟩ | - | -
      · simpa [empties, added] using ih.trans (List.sublist_append_left _ _)
      · refine List.Sublist.append (by simpa [empties] using ih) ?_
        cases hlog : logging account <;> simp [sent, added, hlog]
      · simpa [empties, added, sent] using ih
      · simp [empties, added]

/-- Queries that are sent one after the other. -/
lemma remembered_exchanges (account : List Incident)
    (exchanges : List (CompiledQuery × Except TransportError Json)) :
    logging (account ++ exchanges.map fun x => .exchange x.1 x.2) = logging account
      ∧ remembered (account ++ exchanges.map fun x => .exchange x.1 x.2)
        = remembered account ++ if logging account then answered exchanges else [] := by
  induction exchanges using List.reverseRecOn with
  | nil => simp [answered]
  | append_singleton exchanges x ih =>
      obtain ⟨hlogging, hremembered⟩ := ih
      rw [List.map_append, List.map_singleton, ← List.append_assoc, logging_exchange,
        remembered_concat, hlogging, hremembered, answered_append]
      obtain ⟨q, - | -⟩ := x
      · simp [empties, added, answered]
      · rw [added, hlogging]
        cases logging account <;> simp [empties, answered]

end Incident

/-- What goes over the wire while a connection becomes another. -/
def Connection.exchanged (c c' : Connection) : List Incident :=
  (c.transport.exchanges (c'.sent.drop c.sent.length)).map fun x => .exchange x.1 x.2

namespace Session

mutual

/-- What is noted down of a step: a switch or an emptying of the log, or what goes over the wire. -/
def account (s : Session) : Step → List Incident
  | .enableLog => [.switch true]
  | .disableLog => [.switch false]
  | .flushLog => [.flush]
  | .onHandle steps => accountAll s steps
  | step => s.connection.exchanged (s.run step).2.connection

def accountAll (s : Session) : List Step → List Incident
  | [] => []
  | step :: steps => account s step ++ accountAll (s.run step).2 steps

end

end Session

/-! ## The log remembers -/

/-- **A connection remembers an account**: its log is on and holds what the account says, and the
queries of the account are those it has sent. -/
structure Connection.Remembers (c : Connection) (account : List Incident) : Prop where
  enabled : c.log.enabled = Incident.logging account
  logged : c.loggedQueries = Incident.remembered account
  sent : c.sent = Incident.sent account

namespace Connection.Remembers

variable {c c' : Connection} {account : List Incident}

lemma asked {queries : List CompiledQuery} (h : c.Remembers account) (hasked : c.Asked queries c') :
    c'.Remembers (account ++ c.exchanged c') := by
  have hexchanged : c.exchanged c'
      = (c.transport.exchanges queries).map fun x => .exchange x.1 x.2 := by
    rw [exchanged, hasked.sent, List.drop_left]
  obtain ⟨hlogging, hremembered⟩ :=
    Incident.remembered_exchanges account (c.transport.exchanges queries)
  rw [hexchanged]
  refine ⟨?_, ?_, ?_⟩
  · rw [hlogging, hasked.enabled, h.enabled]
  · rw [hremembered, hasked.logged, h.logged, h.enabled]
  · have hqueries : (c.transport.exchanges queries).map Prod.fst = queries :=
      List.map_fst_zip (Nat.le_of_eq (c.transport.length_answers queries).symm)
    rw [Incident.sent_append, hasked.sent, h.sent]
    congr 1
    rw [Incident.sent, List.filterMap_map]
    conv_lhs => rw [← hqueries]
    rw [← List.filterMap_eq_map]
    rfl

lemma switch (h : c.Remembers account) (on : Bool) :
    ({ c with log := c.log.setEnabled on } : Connection).Remembers (account ++ [.switch on]) where
  enabled := (Incident.logging_switch on).symm
  logged := by
    rw [Incident.remembered_concat, ← h.logged]
    exact (List.append_nil _).symm
  sent := by
    rw [Incident.sent_append, ← h.sent]
    exact (List.append_nil _).symm

lemma flush (h : c.Remembers account) : c.flushLog.Remembers (account ++ [.flush]) where
  enabled := h.enabled.trans Incident.logging_flush.symm
  logged := by
    rw [Incident.remembered_concat]
    rfl
  sent := by
    rw [Incident.sent_append, ← h.sent]
    exact (List.append_nil _).symm

end Connection.Remembers

namespace Session

lemma onlyAsks_remembers {s : Session} {step : Step} {account : List Incident}
    (hstep : step.onlyAsks = true) (hc : s.connection.pretending = false)
    (h : s.connection.Remembers account) :
    (s.run step).2.connection.Remembers
      (account ++ s.connection.exchanged (s.run step).2.connection) := by
  obtain ⟨queries, hasked⟩ := Connection.keptByQueries_asked.step s step hstep hc
  exact h.asked hasked

mutual

/-- **A step keeps the log equal to what is remembered.** -/
theorem run_remembers (step : Step) (s : Session) {account : List Incident}
    (hstep : step.holdsDryRun = false) (hc : s.connection.pretending = false)
    (h : s.connection.Remembers account) :
    (s.run step).2.connection.Remembers (account ++ s.account step) := by
  cases step with
  | enableLog => exact h.switch true
  | disableLog => exact h.switch false
  | flushLog => exact h.flush
  | onHandle steps => exact performAll_remembers steps s hstep hc h
  | dryRun steps ending => simp [Step.holdsDryRun] at hstep
  | _ => exact onlyAsks_remembers rfl hc h

theorem performAll_remembers (steps : List Step) (s : Session) {account : List Incident}
    (hsteps : Step.anyHoldsDryRun steps = false) (hc : s.connection.pretending = false)
    (h : s.connection.Remembers account) :
    (s.performAll steps).2.connection.Remembers (account ++ s.accountAll steps) := by
  cases steps with
  | nil => simpa [performAll, accountAll] using h
  | cons step steps =>
      rw [Step.anyHoldsDryRun, Bool.or_eq_false_iff] at hsteps
      have hstep := run_remembers step s hsteps.1 hc h
      have hlive : (s.run step).2.connection.pretending = false := by
        rw [pretending_run, hc, Bool.false_and]
      rw [accountAll, ← List.append_assoc]
      exact performAll_remembers steps (s.run step).2 hsteps.2 hlive hstep

end

end Session

/-! ## One request each -/

/-- The query of a step that runs just one. -/
def Step.query? : Step → Option CompiledQuery
  | .select q | .selectOne q => some q
  | .get b => some b.compile
  | .getWithAttributes b attributes =>
    some (if b.attributes = ["*"] then b.select attributes else b).compile
  | .first b => some (b.take 1).compile
  | .find b uid => some ((b.whereEquals "uid" (.string uid)).take 1).compile
  | _ => none

def StepResult.error? : StepResult → Option ConnectionError
  | .entries (.error e) | .entry (.error e) => some e
  | _ => none

namespace Session

/-- Such a step runs its query and nothing else, and gives the error of the query unchanged. -/
lemma run_query {s : Session} {step : Step} {q : CompiledQuery} (hq : step.query? = some q) :
    (s.run step).2.connection = (s.connection.run q).2
      ∧ ∀ e, (s.connection.run q).1 = .error e → (s.run step).1.error? = some e := by
  have hselect : ∀ e, (s.connection.run q).1 = .error e →
      (s.connection.select q).1 = .error e := fun e he => by
    show (s.connection.run q).1.map _ = _
    rw [he]
    rfl
  have hfirst : ∀ e, (s.connection.run q).1 = .error e →
      (s.connection.select q).1.map List.head? = .error e := fun e he => by
    rw [hselect e he]
    rfl
  cases step with
  | select q' =>
      cases hq
      exact ⟨rfl, fun e he => congrArg (StepResult.error? ∘ .entries) (hselect e he)⟩
  | selectOne q' =>
      cases hq
      exact ⟨rfl, fun e he => congrArg (StepResult.error? ∘ .entry) (hfirst e he)⟩
  | get b =>
      cases hq
      exact ⟨rfl, fun e he => congrArg (StepResult.error? ∘ .entries) (hselect e he)⟩
  | getWithAttributes b attributes =>
      have hget : b.getWithAttributes attributes s.connection = s.connection.select q := by
        cases hq
        rw [QueryBuilder.getWithAttributes]
        split <;> rfl
      rw [run, hget]
      exact ⟨rfl, fun e he => congrArg (StepResult.error? ∘ .entries) (hselect e he)⟩
  | first b =>
      cases hq
      exact ⟨rfl, fun e he => congrArg (StepResult.error? ∘ .entry) (hfirst e he)⟩
  | find b uid =>
      cases hq
      exact ⟨rfl, fun e he => congrArg (StepResult.error? ∘ .entry) (hfirst e he)⟩
  | _ => simp [Step.query?] at hq

end Session

/-- A page whose reply comes in is logged, whatever the cursor makes of the reply. -/
lemma PageCursor.fetch_log {p : PageCursor} {c : Connection} (hc : c.pretending = false) :
    (p.fetch c).2.2.log = (c.run p.request).2.log
      ∧ ∀ e, (c.transport.send p.request).1.outcome = .error e →
          (p.fetch c).1 = some (.transport e) := by
  cases houtcome : (c.transport.send p.request).1.outcome with
  | error e =>
      rw [fetch, Connection.run_eq_error hc houtcome]
      exact ⟨rfl, fun e' he => by cases he; rfl⟩
  | ok reply =>
      rw [fetch, Connection.run_eq_ok hc houtcome]
      refine ⟨?_, fun e he => by cases he⟩
      dsimp only
      split <;> rfl

/-! ## Every point of a script -/

namespace Session

/-- A new connection, with no cursor on it. -/
def new (f : Profile) (t : Transport) : Session := ⟨{ profile := f, transport := t }, []⟩

/-- A script has led to a session after some of its steps: before another one, or at its end. -/
def Reaches (start : Session) (script past : List Step) (s : Session) : Prop :=
  (∃ depth step, start.Executes script depth past s step)
    ∨ past = script ∧ s = (start.performAll script).2

/-- In a script without dry runs, the steps that were performed before a step lead to it. -/
lemma Executes.performAll {start s : Session} {script past : List Step} {depth : Nat} {step : Step}
    (h : start.Executes script depth past s step) (hscript : Step.anyHoldsDryRun script = false) :
    depth = 0 ∧ Step.anyHoldsDryRun past = false ∧ s = (start.performAll past).2 := by
  induction h with
  | first s step steps => exact ⟨rfl, rfl, rfl⟩
  | behind _ ih =>
      rw [Step.anyHoldsDryRun, Bool.or_eq_false_iff] at hscript
      obtain ⟨-, hpast, hs⟩ := ih hscript.2
      exact ⟨rfl, by rw [Step.anyHoldsDryRun, hscript.1, hpast, Bool.or_false], hs⟩
  | behind_inside _ ih =>
      rw [Step.anyHoldsDryRun, Bool.or_eq_false_iff] at hscript
      exact absurd (ih hscript.2).1 (Nat.succ_ne_zero _)
  | onHandle _ ih =>
      rw [Step.anyHoldsDryRun, Bool.or_eq_false_iff] at hscript
      exact ih hscript.1
  | dryRun _ _ => simp [Step.anyHoldsDryRun, Step.holdsDryRun] at hscript

lemma Reaches.performAll {start s : Session} {script past : List Step}
    (h : start.Reaches script past s) (hscript : Step.anyHoldsDryRun script = false) :
    Step.anyHoldsDryRun past = false ∧ s = (start.performAll past).2 := by
  rcases h with ⟨depth, step, h⟩ | ⟨rfl, rfl⟩
  · exact (h.performAll hscript).2
  · exact ⟨hscript, rfl⟩

end Session

/-- **The query log is the history**, at every point of a script. -/
structure LogIsHistory (start : Session) (script : List Step) : Prop where
  /-- The log is what is remembered of the steps before. -/
  history : ∀ {past s}, start.Reaches script past s →
    s.connection.Remembers (start.accountAll past)
  /-- The queries in the log are among those that were sent, in the same order. -/
  sublist : ∀ {past s}, start.Reaches script past s →
    s.connection.loggedQueries.Sublist s.connection.sent
  /-- A step that runs a query sends it and nothing else.  If it fails, it gives the transport's error
  and leaves the log alone. -/
  query : ∀ {past s}, start.Reaches script past s → ∀ {step q}, step.query? = some q →
    (s.run step).2.connection.sent = s.connection.sent ++ [q]
      ∧ ∀ e, (s.connection.transport.send q).1.outcome = .error e →
        (s.run step).1.error? = some (.transport e)
          ∧ (s.run step).2.connection.log = s.connection.log
  /-- A cursor that reads a page sends its request and nothing else.  If it fails, it gives the
  transport's error and leaves the log alone; otherwise the request is logged if the log is on. -/
  page : ∀ {past s}, start.Reaches script past s → ∀ p : PageCursor,
    (p.fetch s.connection).2.2.sent = s.connection.sent ++ [p.request]
      ∧ (∀ e, (s.connection.transport.send p.request).1.outcome = .error e →
        (p.fetch s.connection).1 = some (.transport e)
          ∧ (p.fetch s.connection).2.2.log = s.connection.log)
      ∧ ∀ reply, (s.connection.transport.send p.request).1.outcome = .ok reply →
        (p.fetch s.connection).2.2.loggedQueries
          = s.connection.loggedQueries ++ if s.connection.log.enabled then [p.request] else []
  /-- Switching the log on or off leaves its entries alone. -/
  switch : ∀ {past s}, start.Reaches script past s →
    (s.run .enableLog).2.connection.log.entries = s.connection.log.entries
      ∧ (s.run .disableLog).2.connection.log.entries = s.connection.log.entries

/-- **The log of a new connection is the history of its queries**, in every script without dry runs. -/
theorem log_is_history (f : Profile) (t : Transport) {script : List Step}
    (hscript : Step.anyHoldsDryRun script = false) : LogIsHistory (Session.new f t) script := by
  have hnew : (Session.new f t).connection.Remembers [] := ⟨rfl, rfl, rfl⟩
  have hpoint : ∀ {past s}, (Session.new f t).Reaches script past s →
      s.connection.pretending = false
        ∧ s.connection.Remembers ((Session.new f t).accountAll past) := by
    intro past s hreaches
    obtain ⟨hpast, rfl⟩ := hreaches.performAll hscript
    refine ⟨?_, Session.performAll_remembers past _ hpast rfl hnew⟩
    rw [Session.pretending_performAll]
    rfl
  refine
    { history := fun hreaches => (hpoint hreaches).2
      sublist := fun {past s} hreaches => ?_
      query := fun {past s} hreaches step q hq => ?_
      page := fun {past s} hreaches p => ?_
      switch := fun _ => ⟨rfl, rfl⟩ }
  · obtain ⟨-, hremembers⟩ := hpoint hreaches
    rw [hremembers.logged, hremembers.sent]
    exact Incident.remembered_sublist _
  · obtain ⟨hlive, -⟩ := hpoint hreaches
    obtain ⟨hconnection, herror⟩ := Session.run_query (s := s) hq
    rw [hconnection]
    refine ⟨(Connection.Asked.run hlive q).sent, fun e he => ?_⟩
    rw [Connection.run_eq_error hlive he] at herror ⊢
    exact ⟨herror _ rfl, rfl⟩
  · obtain ⟨hlive, -⟩ := hpoint hreaches
    obtain ⟨hlog, herror⟩ := PageCursor.fetch_log (p := p) hlive
    refine ⟨(PageCursor.fetch_connection hlive).2.2.1, fun e he => ⟨herror e he, ?_⟩,
      fun reply hreply => ?_⟩
    · rw [hlog, Connection.run_eq_error hlive he]
      rfl
    · have hasked := (Connection.Asked.run hlive p.request).logged
      rw [Connection.loggedQueries, hlog]
      refine hasked.trans ?_
      simp [Transport.exchanges, Transport.answers, answered, hreply]

/-- A query that fails, a page whose token is rejected, and a query with the log off. -/
theorem log_is_history_rejected_token :
    let q : CompiledQuery := { filter := "uid pr", includeAttributes := "*" }
    let f : Profile := .ofProvider "" .scim ⟨100, "/cursor", ""⟩
    let t : Transport :=
      { replies :=
          [fun _ => ⟨.error (.status 503 ""), []⟩,
            fun _ => ⟨.ok (.object [("cursor", .array [])]), []⟩] }
    let script : List Step :=
      [.enableLog, .select q, .onHandle [.openCursor "a" q 7, .pull "a" 1], .disableLog, .select q]
    Step.anyHoldsDryRun script = false
      ∧ LogIsHistory (Session.new f t) script := by
  intro q f t script
  have hscript : Step.anyHoldsDryRun script = false := rfl
  exact ⟨hscript, log_is_history f t hscript⟩

end DirectorySearch
