import DirectorySearch.Directory.Event

/-!
# Transports

A transport carries queries to a directory.  What matters of it is what it gives back, so a transport
is the list of the replies to come: the first query gets the first reply, and so on.  A reply may
depend on the query, as the wording of a network failure does.

* `Reply`, `Exchange` — what comes back for one query.
* **`Transport`** — the replies to come, and what comes back after the last of them.
* `Transport.send` — one query sent.

After the last reply a transport answers with nothing or fails.  It never answers with another page,
so reading on page after page comes to an end.
-/

namespace DirectorySearch

/-- What comes back for a query, with the events on the way. -/
structure Reply (α : Type) where
  /-- The answer, or why there is none. -/
  outcome : Except TransportError α
  /-- What is reported on the way. -/
  events : List Event := []

namespace Reply

/-- A reply with another answer. -/
def map {α β : Type} (f : α → β) (r : Reply α) : Reply β := ⟨r.outcome.map f, r.events⟩

end Reply

/-- How a directory answers one query. -/
abbrev Exchange := CompiledQuery → Reply Json

/-- The replies that a directory will give. -/
structure Transport where
  /-- The replies to the next queries, in order. -/
  replies : List Exchange := []
  /-- What comes back afterwards: an empty reply, or an error. -/
  closing : CompiledQuery → Reply Unit := fun _ => ⟨.ok (), []⟩

namespace Transport

/-- Sends a query: its reply, and the transport afterwards.  An empty reply counts as null. -/
def send (t : Transport) (q : CompiledQuery) : Reply Json × Transport :=
  match t.replies with
  | exchange :: rest => (exchange q, { t with replies := rest })
  | [] => ((t.closing q).map fun _ => Json.null, t)

end Transport

end DirectorySearch
