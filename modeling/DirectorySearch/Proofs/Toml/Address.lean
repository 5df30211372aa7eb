import DirectorySearch.Proofs.Lookup
import DirectorySearch.Toml.Table

/-!
# Where a value stands in a document

A document is put together from assignments.  Each puts a value somewhere, and what comes later leaves
it there.

* `Step`, `at?` — the way to a value inside another, by keys and indexes.
* `KeepsStrings` — every string that one value has somewhere, another has in the same place.
* `addSection_keeps` — a further section keeps the strings of the document.
* `Header.steps` — the way to the table that a header opens, given the document before it.
* **`addSection_at`** — a value assigned below a header stands at the key, in the table of the header.

An array of tables is entered at its last table, so the way that a header means depends on the document
before it.
-/

namespace DirectorySearch.Toml

/-- A step into a value. -/
inductive Step where
  | key (k : String)
  | index (i : Nat)
deriving DecidableEq, Repr

/-- The value at the end of a way. -/
def at? : List Step → Toml → Option Toml
  | [], t => some t
  | .key k :: steps, .table members => (members.lookup k).bind (at? steps)
  | .index i :: steps, .array items => items[i]?.bind (at? steps)
  | _ :: _, _ => none

/-- Every string that the one has somewhere, the other has in the same place. -/
def KeepsStrings (t t' : Toml) : Prop :=
  ∀ steps s, t.at? steps = some (.string s) → t'.at? steps = some (.string s)

lemma KeepsStrings.refl (t : Toml) : KeepsStrings t t := fun _ _ h => h

lemma KeepsStrings.trans {t t' t'' : Toml} (h : KeepsStrings t t') (h' : KeepsStrings t' t'') :
    KeepsStrings t t'' := fun steps s hs => h' steps s (h steps s hs)

/-! ## The value of members -/

/-- The table that some members come to. -/
def tableOf (ms : Members) : Toml := .table (closeMembers ms)

lemma closeItems_eq (items : List Members) : closeItems items = items.map tableOf := by
  induction items with
  | nil => rfl
  | cons ms items ih => rw [closeItems, List.map_cons, ih, tableOf]

lemma lookup_closeMembers (ms : Members) (key : String) :
    (closeMembers ms).lookup key = (ms.lookup key).map Node.close := by
  induction ms with
  | nil => rfl
  | cons member ms ih =>
      obtain ⟨k, node⟩ := member
      rw [closeMembers, List.lookup_cons, List.lookup_cons, ih]
      split <;> rfl

lemma at?_tableOf (ms : Members) (key : String) (steps : List Step) :
    (tableOf ms).at? (.key key :: steps) = (ms.lookup key).bind fun node => node.close.at? steps := by
  rw [tableOf, at?, lookup_closeMembers, Option.bind_map]
  rfl

lemma lookup_put (ms : Members) (key k : String) (node : Node) :
    (ms.put key node).lookup k = if k = key then some node else ms.lookup k := by
  unfold Members.put
  split
  · next hsome =>
    rw [lookup_replace]
    by_cases hk : k = key
    · obtain ⟨old, hold⟩ := Option.isSome_iff_exists.mp hsome
      rw [if_pos hk, if_pos hk, hold, Option.map_some]
    · rw [if_neg hk, if_neg hk]
  · next hnone =>
    rw [List.lookup_append, lookup_cons_ite, List.lookup_nil]
    by_cases hk : k = key
    · rw [if_pos hk, if_pos hk, hk, Option.not_isSome_iff_eq_none.mp hnone, Option.none_or]
    · rw [if_neg hk, if_neg hk, Option.or_none]

/-! ## What comes later keeps the strings -/

/-- The step of an array leads to its items. -/
lemma KeepsStrings.array {items items' : List Toml}
    (h : ∀ (i : Nat) (t : Toml), items[i]? = some t → ∃ t', items'[i]? = some t' ∧ KeepsStrings t t') :
    KeepsStrings (.array items) (.array items') := by
  intro steps s hs
  cases steps with
  | nil => simp [at?] at hs
  | cons step steps =>
      cases step with
      | key k => simp [at?] at hs
      | index i =>
          rw [at?, Option.bind_eq_some_iff] at hs ⊢
          obtain ⟨t, ht, hs⟩ := hs
          obtain ⟨t', ht', hkeeps⟩ := h i t ht
          exact ⟨t', ht', hkeeps steps s hs⟩

/-- A member that is put keeps what the member before it had. -/
lemma put_keeps {ms : Members} {key : String} {node : Node}
    (h : ∀ old, ms.lookup key = some old → KeepsStrings old.close node.close) :
    KeepsStrings (tableOf ms) (tableOf (ms.put key node)) := by
  intro steps s hs
  cases steps with
  | nil => simp [at?, tableOf] at hs
  | cons step steps =>
      cases step with
      | index i => simp [at?, tableOf] at hs
      | key k =>
          rw [at?_tableOf, Option.bind_eq_some_iff] at hs ⊢
          obtain ⟨old, hold, hs⟩ := hs
          rw [lookup_put]
          by_cases hk : k = key
          · exact ⟨node, if_pos hk, h old (hk ▸ hold) steps s hs⟩
          · exact ⟨old, by rwa [if_neg hk], hs⟩

lemma closeItems_keeps {items : List Members} {last last' : Members} (hlast : items.getLast? = some last)
    (h : KeepsStrings (tableOf last) (tableOf last')) :
    KeepsStrings (Node.tables items).close (Node.tables (items.dropLast ++ [last'])).close := by
  obtain ⟨front, rfl⟩ : ∃ front, items = front ++ [last] := List.getLast?_eq_some_iff.mp hlast
  rw [Node.close, Node.close, closeItems_eq, closeItems_eq, List.dropLast_concat]
  refine KeepsStrings.array fun i t ht => ?_
  rw [List.map_append] at ht ⊢
  rcases Nat.lt_or_ge i (front.map tableOf).length with hi | hi
  · rw [List.getElem?_append_left hi] at ht ⊢
    exact ⟨t, ht, .refl t⟩
  · rw [List.getElem?_append_right hi] at ht ⊢
    cases hzero : i - (front.map tableOf).length with
    | zero =>
        rw [hzero] at ht
        obtain rfl : tableOf last = t := by simpa using ht
        exact ⟨_, rfl, h⟩
    | succ j =>
        rw [hzero] at ht
        simp at ht

section Additions

variable {add : Members → Option Members}
  (hadd : ∀ {ms ms'}, add ms = some ms' → KeepsStrings (tableOf ms) (tableOf ms'))

include hadd

lemma along_keeps {path : List String} {ms ms' : Members} (h : Members.along add path ms = some ms') :
    KeepsStrings (tableOf ms) (tableOf ms') := by
  induction path generalizing ms ms' with
  | nil => exact hadd h
  | cons key path ih =>
      rw [Members.along] at h
      split at h
      · next hnone =>
        obtain ⟨inner, -, rfl⟩ := Option.map_eq_some_iff.mp h
        exact put_keeps fun old hold => by simp [hnone] at hold
      · next origin inner hinner =>
        obtain ⟨inner', hinner', rfl⟩ := Option.map_eq_some_iff.mp h
        refine put_keeps fun old hold => ?_
        obtain rfl := Option.some.inj (hinner.symm.trans hold)
        exact ih hinner'
      · next items hitems =>
        split at h
        · simp at h
        · next last hlast =>
          obtain ⟨last', hlast', rfl⟩ := Option.map_eq_some_iff.mp h
          refine put_keeps fun old hold => ?_
          obtain rfl := Option.some.inj (hitems.symm.trans hold)
          exact closeItems_keeps hlast (ih hlast')
      · simp at h

lemma dotted_keeps {path : List String} {ms ms' : Members} (h : Members.dotted add path ms = some ms') :
    KeepsStrings (tableOf ms) (tableOf ms') := by
  induction path generalizing ms ms' with
  | nil => exact hadd h
  | cons key path ih =>
      rw [Members.dotted] at h
      split at h
      · next hnone =>
        obtain ⟨inner, -, rfl⟩ := Option.map_eq_some_iff.mp h
        exact put_keeps fun old hold => by simp [hnone] at hold
      · next origin inner hinner =>
        split at h
        · simp at h
        · obtain ⟨inner', hinner', rfl⟩ := Option.map_eq_some_iff.mp h
          refine put_keeps fun old hold => ?_
          obtain rfl := Option.some.inj (hinner.symm.trans hold)
          exact ih hinner'
      · simp at h

end Additions

lemma insertNew_keeps {key : String} {node : Node} {ms ms' : Members}
    (h : Members.insertNew key node ms = some ms') : KeepsStrings (tableOf ms) (tableOf ms') := by
  unfold Members.insertNew at h
  split_ifs at h with hsome
  have hput : ms.put key node = ms' := by
    rw [Members.put, if_neg hsome]
    exact Option.some.inj h
  rw [← hput]
  exact put_keeps fun old hold => absurd (Option.isSome_iff_exists.mpr ⟨old, hold⟩) hsome

lemma assign?_keeps {key : List String} {v : Toml} {ms ms' : Members}
    (h : assign? ms key v = some ms') : KeepsStrings (tableOf ms) (tableOf ms') := by
  unfold assign? at h
  split at h
  · simp at h
  · exact dotted_keeps insertNew_keeps h

lemma tableMembers?_keeps {body : List Assignment} {ms ms' : Members}
    (h : tableMembers? body ms = some ms') : KeepsStrings (tableOf ms) (tableOf ms') := by
  induction body generalizing ms with
  | nil =>
      rw [tableMembers?] at h
      obtain rfl := Option.some.inj h
      exact .refl _
  | cons assignment body ih =>
      obtain ⟨key, phrase⟩ := assignment
      rw [tableMembers?] at h
      split at h
      · simp at h
      · split at h
        · simp at h
        · next hassign => exact (assign?_keeps hassign).trans (ih h)

lemma openTable_keeps {body : List Assignment} {key : String} {ms ms' : Members}
    (h : openTable body key ms = some ms') : KeepsStrings (tableOf ms) (tableOf ms') := by
  obtain ⟨inner, hinner, rfl⟩ := Option.map_eq_some_iff.mp h
  refine put_keeps fun old hold => ?_
  rw [hold, Option.bind_eq_some_iff] at hinner
  obtain ⟨start, hstart, hbody⟩ := hinner
  split at hstart
  · next hnone => simp at hnone
  · next before hbefore =>
    obtain rfl := Option.some.inj hbefore
    obtain rfl := Option.some.inj hstart
    exact tableMembers?_keeps hbody
  · simp at hstart

lemma openItem_keeps {body : List Assignment} {key : String} {ms ms' : Members}
    (h : openItem body key ms = some ms') : KeepsStrings (tableOf ms) (tableOf ms') := by
  unfold openItem at h
  dsimp only at h
  split at h
  · next items item hitems hitem =>
    obtain rfl := Option.some.inj h
    refine put_keeps fun old hold => ?_
    rw [hold] at hitems
    split at hitems
    · next hnone => simp at hnone
    · next before hbefore =>
      obtain rfl := Option.some.inj hbefore
      obtain rfl := Option.some.inj hitems
      rw [Node.close, Node.close, closeItems_eq, closeItems_eq, List.map_append]
      refine KeepsStrings.array fun i t ht => ⟨t, ?_, .refl t⟩
      rw [List.getElem?_append_left (List.getElem?_eq_some_iff.mp ht).1]
      exact ht
    · simp at hitems
  · simp at h

/-- **A further section keeps the strings** of the document. -/
lemma addSection_keeps {ms ms' : Members} {sec : Section} (h : addSection ms sec = some ms') :
    KeepsStrings (tableOf ms) (tableOf ms') := by
  unfold addSection at h
  split at h
  · exact tableMembers?_keeps h
  · obtain ⟨⟨path, key⟩, -, hadd⟩ := Option.bind_eq_some_iff.mp h
    exact along_keeps openTable_keeps hadd
  · obtain ⟨⟨path, key⟩, -, hadd⟩ := Option.bind_eq_some_iff.mp h
    exact along_keeps openItem_keeps hadd

lemma addSections_keeps {sections : List Section} {ms ms' : Members}
    (h : sections.foldlM addSection ms = some ms') : KeepsStrings (tableOf ms) (tableOf ms') := by
  induction sections generalizing ms with
  | nil =>
      obtain rfl := Option.some.inj h
      exact .refl _
  | cons sec sections ih =>
      rw [List.foldlM_cons, Option.bind_eq_bind, Option.bind_eq_some_iff] at h
      obtain ⟨next, hnext, hrest⟩ := h
      exact (addSection_keeps hnext).trans (ih hrest)

/-! ## Where a value is put -/

/-- The way to the last table that a path leads to, and further on from there. -/
def stepsAlong (further : Members → List Step) : List String → Members → List Step
  | [], ms => further ms
  | key :: path, ms =>
    match ms.lookup key with
    | some (.table _ inner) => .key key :: stepsAlong further path inner
    | some (.tables items) =>
      .key key :: .index (items.length - 1) :: stepsAlong further path (items.getLast?.getD [])
    | _ => .key key :: stepsAlong further path []

/-- How many tables the array of a key has. -/
def itemCount (ms : Members) (key : String) : Nat :=
  match ms.lookup key with
  | some (.tables items) => items.length
  | _ => 0

/-- **The way to the table that a header opens**, behind the sections that have come to `ms`. -/
def Header.steps (ms : Members) : Header → List Step
  | .root => []
  | .table path =>
    match cutKey? path with
    | none => []
    | some (path, key) => stepsAlong (fun _ => [.key key]) path ms
  | .item path =>
    match cutKey? path with
    | none => []
    | some (path, key) => stepsAlong (fun ms => [.key key, .index (itemCount ms key)]) path ms

lemma at?_put (ms : Members) (key : String) (node : Node) (steps : List Step) :
    (tableOf (ms.put key node)).at? (.key key :: steps) = node.close.at? steps := by
  rw [at?_tableOf, lookup_put, if_pos rfl, Option.bind_some]

lemma cutKey?_eq {key path : List String} {last : String} (h : cutKey? key = some (path, last)) :
    key = path ++ [last] := by
  unfold cutKey? at h
  split at h
  · simp at h
  · obtain ⟨last', hlast, h⟩ := Option.map_eq_some_iff.mp h
    obtain ⟨front, hfront⟩ := List.getLast?_eq_some_iff.mp hlast
    rw [hfront, List.dropLast_concat] at h
    obtain ⟨rfl, rfl⟩ := Prod.mk.inj h
    exact hfront

section

variable {ms ms' : Members} {steps : List Step} {r : Option Toml}

lemma insertNew_at {key : String} {v : Toml} (h : Members.insertNew key (.value v) ms = some ms') :
    (tableOf ms').at? (.key key :: steps) = v.at? steps := by
  unfold Members.insertNew at h
  split_ifs at h with hsome
  have hput : ms.put key (.value v) = ms' := by
    rw [Members.put, if_neg hsome]
    exact Option.some.inj h
  rw [← hput, at?_put, Node.close]

lemma dotted_at {add : Members → Option Members}
    (hadd : ∀ {ms ms'}, add ms = some ms' → (tableOf ms').at? steps = r) {path : List String}
    (h : Members.dotted add path ms = some ms') : (tableOf ms').at? (path.map .key ++ steps) = r := by
  induction path generalizing ms ms' with
  | nil => exact hadd h
  | cons key path ih =>
      rw [Members.dotted] at h
      split at h
      · obtain ⟨inner, hinner, rfl⟩ := Option.map_eq_some_iff.mp h
        rw [List.map_cons, List.cons_append, at?_put]
        exact ih hinner
      · split at h
        · simp at h
        · obtain ⟨inner, hinner, rfl⟩ := Option.map_eq_some_iff.mp h
          rw [List.map_cons, List.cons_append, at?_put]
          exact ih hinner
      · simp at h

lemma assign?_at {key : List String} {v : Toml} (h : assign? ms key v = some ms') :
    (tableOf ms').at? (key.map .key ++ steps) = v.at? steps := by
  unfold assign? at h
  split at h
  · simp at h
  · next path last hcut =>
    have hat := dotted_at (fun h => @insertNew_at _ _ steps _ _ h) h
    rwa [cutKey?_eq hcut, List.map_append, List.append_assoc]

/-- An assignment puts its value at its key, and those after it leave it there. -/
lemma tableMembers?_at {before after : List Assignment} {key : List String} {phrase : Phrase}
    {s : String} (hphrase : ∀ v, phrase.value? = some v → v.at? steps = some (.string s))
    (h : tableMembers? (before ++ (key, phrase) :: after) ms = some ms') :
    (tableOf ms').at? (key.map .key ++ steps) = some (.string s) := by
  induction before generalizing ms with
  | nil =>
      rw [List.nil_append, tableMembers?] at h
      split at h
      · simp at h
      · next v hv =>
        split at h
        · simp at h
        · next next hassign =>
          exact tableMembers?_keeps h _ _ ((assign?_at hassign).trans (hphrase v hv))
  | cons assignment before ih =>
      obtain ⟨key', phrase'⟩ := assignment
      rw [List.cons_append, tableMembers?] at h
      split at h
      · simp at h
      · split at h
        · simp at h
        · exact ih h

lemma along_at {add : Members → Option Members} {further : Members → List Step}
    (hadd : ∀ {ms ms'}, add ms = some ms' → (tableOf ms').at? (further ms ++ steps) = r)
    {path : List String} (h : Members.along add path ms = some ms') :
    (tableOf ms').at? (stepsAlong further path ms ++ steps) = r := by
  induction path generalizing ms ms' with
  | nil => exact hadd h
  | cons key path ih =>
      rw [Members.along] at h
      split at h
      · next hnone =>
        obtain ⟨inner, hinner, rfl⟩ := Option.map_eq_some_iff.mp h
        rw [stepsAlong, hnone, List.cons_append, at?_put]
        exact ih hinner
      · next origin inner hinner =>
        obtain ⟨inner', hinner', rfl⟩ := Option.map_eq_some_iff.mp h
        rw [stepsAlong, hinner, List.cons_append, at?_put]
        exact ih hinner'
      · next items hitems =>
        split at h
        · simp at h
        · next last hlast =>
          obtain ⟨last', hlast', rfl⟩ := Option.map_eq_some_iff.mp h
          obtain ⟨front, rfl⟩ := List.getLast?_eq_some_iff.mp hlast
          rw [stepsAlong, hitems, List.cons_append, at?_put, Node.close, closeItems_eq]
          simp only [List.dropLast_concat, hlast, Option.getD_some, List.length_append,
            List.length_singleton, Nat.add_sub_cancel, List.cons_append, at?, List.map_append,
            List.map_singleton]
          rw [List.getElem?_append_right (by simp), List.length_map, Nat.sub_self]
          exact ih hlast'
      · simp at h

lemma openTable_at {body : List Assignment} {key : String}
    (hbody : ∀ {start inner}, tableMembers? body start = some inner → (tableOf inner).at? steps = r)
    (h : openTable body key ms = some ms') : (tableOf ms').at? (.key key :: steps) = r := by
  obtain ⟨inner, hinner, rfl⟩ := Option.map_eq_some_iff.mp h
  obtain ⟨start, -, hstart⟩ := Option.bind_eq_some_iff.mp hinner
  rw [at?_put]
  exact hbody hstart

lemma openItem_at {body : List Assignment} {key : String}
    (hbody : ∀ {start inner}, tableMembers? body start = some inner → (tableOf inner).at? steps = r)
    (h : openItem body key ms = some ms') :
    (tableOf ms').at? (.key key :: .index (itemCount ms key) :: steps) = r := by
  unfold openItem at h
  dsimp only at h
  split at h
  · next items item hitems hitem =>
    obtain rfl := Option.some.inj h
    have hcount : itemCount ms key = items.length := by
      unfold itemCount
      split at hitems
      · next hnone =>
        rw [hnone, ← Option.some.inj hitems]
        rfl
      · next before hbefore =>
        rw [hbefore, ← Option.some.inj hitems]
      · simp at hitems
    rw [at?_put, Node.close, closeItems_eq, hcount, at?, List.map_append,
      List.getElem?_append_right (by simp), List.length_map, Nat.sub_self]
    exact hbody hitem
  · simp at h

/-- **A section puts what its assignments come to** into the table of its header. -/
lemma addSection_at {header : Header} {body : List Assignment}
    (hbody : ∀ {start inner}, tableMembers? body start = some inner → (tableOf inner).at? steps = r)
    (h : addSection ms ⟨header, body⟩ = some ms') :
    (tableOf ms').at? (header.steps ms ++ steps) = r := by
  cases header with
  | root => exact hbody h
  | table path =>
      obtain ⟨⟨path, key⟩, hcut, hadd⟩ := Option.bind_eq_some_iff.mp h
      rw [Header.steps, hcut]
      exact along_at (fun h => openTable_at hbody h) hadd
  | item path =>
      obtain ⟨⟨path, key⟩, hcut, hadd⟩ := Option.bind_eq_some_iff.mp h
      rw [Header.steps, hcut]
      exact along_at (fun h => openItem_at hbody h) hadd

end

end DirectorySearch.Toml
