import DirectorySearch.Query.Compiled

/-!
# The query log

A log of the queries that were run, kept in memory and switched off at first.

* `QueryLog` — the log; `record` adds a query, `flush` empties it.
* `LoggedQuery` — a query with the time it took, in milliseconds and rounded to two decimals.
-/

namespace DirectorySearch

/-- A query that was run. -/
structure LoggedQuery where
  /-- The query. -/
  query : CompiledQuery
  /-- How long it took, in milliseconds. -/
  time : Binary64
deriving DecidableEq, Repr

/-- A log of queries. -/
structure QueryLog where
  /-- Whether queries are recorded. -/
  enabled : Bool := false
  /-- The recorded queries, the earliest first. -/
  entries : List LoggedQuery := []
deriving DecidableEq, Repr, Inhabited

/-- A time rounded to two decimals: a hundred times it to the nearest integer, half away from zero,
divided by a hundred. -/
def roundTime (time : Binary64) : Binary64 :=
  (time.mul (Binary64.ofNat 100)).roundAway.div (Binary64.ofNat 100)

namespace QueryLog

/-- The log switched on or off. -/
def setEnabled (log : QueryLog) (enabled : Bool) : QueryLog := { log with enabled }

/-- The log with a query added, if it is switched on. -/
def record (log : QueryLog) (query : CompiledQuery) (time : Binary64) : QueryLog :=
  if log.enabled then { log with entries := log.entries ++ [⟨query, roundTime time⟩] } else log

/-- The log without its entries. -/
def flush (log : QueryLog) : QueryLog := { log with entries := [] }

@[simp] theorem setEnabled_entries (log : QueryLog) (b : Bool) :
    (log.setEnabled b).entries = log.entries := rfl

@[simp] theorem record_enabled (log : QueryLog) (q : CompiledQuery) (t : Binary64) :
    (log.record q t).enabled = log.enabled := by
  unfold record
  split <;> rfl

theorem record_entries (log : QueryLog) (q : CompiledQuery) (t : Binary64) :
    (log.record q t).entries =
      if log.enabled then log.entries ++ [⟨q, roundTime t⟩] else log.entries := by
  unfold record
  split <;> rfl

end QueryLog

end DirectorySearch
