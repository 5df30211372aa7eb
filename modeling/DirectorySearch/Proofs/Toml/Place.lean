import DirectorySearch.Proofs.Toml.Address

/-!
# From a place in a text to a value of its document

A reader of a document goes through its text from the front.  When it begins a value, the way to that
value is settled: what follows may add to the document, but moves nothing.

* `PhraseTo`, `ItemsTo`, `MembersTo` — what a reader has read before it begins a value inside a value.
* `SectionsTo`, `DocumentTo` — what it has read before it begins a value of a document.
* **`DocumentTo.at?`** — the string that begins at a place stands in the document at the way there.

The relations follow the reader step by step, with its own bounds, and stop where the value begins.
-/

namespace DirectorySearch.Toml

/-! ## Places in a value -/

mutual

/-- The reader of a value, begun on a text, begins the value at the end of a way with the text `inner`. -/
inductive PhraseTo : Nat → List Char → List Step → List Char → Prop where
  | here {n text} : PhraseTo n text [] text
  | array {n rest steps inner} (h : ItemsTo n 0 rest steps inner) :
      PhraseTo (n + 1) ('[' :: rest) steps inner
  | table {n rest steps inner} (h : MembersTo n rest steps inner) :
      PhraseTo (n + 1) ('\x7b' :: rest) steps inner

/-- The same inside an array, from its item of index `i` on. -/
inductive ItemsTo : Nat → Nat → List Char → List Step → List Char → Prop where
  | here {n i text steps inner} (h : PhraseTo n (skipAll text) steps inner) :
      ItemsTo (n + 1) i text (.index i :: steps) inner
  | next {n i text item rest text' steps inner} (hopen : (skipAll text).head? ≠ some ']')
      (hitem : readPhrase? n (skipAll text) = some (item, rest)) (hrest : skipAll rest = ',' :: text')
      (h : ItemsTo n (i + 1) text' steps inner) : ItemsTo (n + 1) i text steps inner

/-- The same inside a table between braces. -/
inductive MembersTo : Nat → List Char → List Step → List Char → Prop where
  | here {n text key rest steps inner} (hopen : (skipAll text).head? ≠ some '\x7d')
      (hkey : readKey? (skipAll text).length (skipAll text) = some (key, '=' :: rest))
      (h : PhraseTo n (skipSpaces rest) steps inner) :
      MembersTo (n + 1) text (key.map .key ++ steps) inner
  | next {n text key rest value rest' text' steps inner}
      (hopen : (skipAll text).head? ≠ some '\x7d')
      (hkey : readKey? (skipAll text).length (skipAll text) = some (key, '=' :: rest))
      (hvalue : readPhrase? n (skipSpaces rest) = some (value, rest'))
      (hrest : skipAll rest' = ',' :: text') (h : MembersTo n text' steps inner) :
      MembersTo (n + 1) text steps inner

end

/-! ## Places in a document -/

/-- The reader of a document, begun on a text behind sections that have come to `ms` and behind the
assignments `body` of a further one, begins the value at the end of a way with the text `inner`. -/
inductive SectionsTo :
    Members → Header → List Assignment → List Char → List Step → List Char → Prop where
  | here {ms header body text key rest steps inner} (hopen : (skipAll text).head? ≠ some '[')
      (hkey : readKey? (skipAll text).length (skipAll text) = some (key, '=' :: rest))
      (h : PhraseTo (rest.length + 1) (skipSpaces rest) steps inner) :
      SectionsTo ms header body text (header.steps ms ++ (key.map .key ++ steps)) inner
  | assignment {ms header body text assignment rest steps inner}
      (hopen : (skipAll text).head? ≠ some '[')
      (hassignment : readAssignment? (skipAll text) = some (assignment, rest))
      (h : SectionsTo ms header (body ++ [assignment]) rest steps inner) :
      SectionsTo ms header body text steps inner
  | header {ms header body text rest next rest' ms' steps inner} (hopen : skipAll text = '[' :: rest)
      (hheader : readHeader? rest = some (next, rest')) (hadd : addSection ms ⟨header, body⟩ = some ms')
      (h : SectionsTo ms' next [] rest' steps inner) : SectionsTo ms header body text steps inner

/-- The reader of a document begins the value at the end of a way with the text `inner`. -/
def DocumentTo (text : List Char) (steps : List Step) (inner : List Char) : Prop :=
  SectionsTo [] .root [] (withoutMark text) steps inner

/-! ## The string at a place of a value -/

/-- A string can be read from a text, and every value with a property has it at the end of a way. -/
def ReadsStringAt (inner : List Char) (steps : List Step) (property : Toml → Prop) : Prop :=
  ∃ s rest, readQuoted? inner = some (s, rest) ∧
    ∀ v, property v → v.at? steps = some (.string (String.ofList s))

lemma ReadsStringAt.imp {inner : List Char} {steps steps' : List Step} {property property' : Toml → Prop}
    (h : ReadsStringAt inner steps property)
    (himp : ∀ v', property' v' → ∃ v, property v ∧ v'.at? steps' = v.at? steps) :
    ReadsStringAt inner steps' property' := by
  obtain ⟨s, rest, hs, hat⟩ := h
  refine ⟨s, rest, hs, fun v' hv' => ?_⟩
  obtain ⟨v, hv, heq⟩ := himp v' hv'
  exact heq.trans (hat v hv)

/-- An array of some values, of which those before a place are known to be so many. -/
def IsArrayFrom (i : Nat) (items : List Phrase) (v : Toml) : Prop :=
  ∃ front vs, front.length = i ∧ phraseValues? items = some vs ∧ v = .array (front ++ vs)

/-- A table that some assignments bring other members to. -/
def IsTableAfter (assignments : List Assignment) (v : Toml) : Prop :=
  ∃ ms ms', tableMembers? assignments ms = some ms' ∧ v = tableOf ms'

/-- The readers with a bound read the string at each place. -/
structure ReadsPlaces (n : Nat) (inner : List Char) : Prop where
  phrase {text steps phrase rest} : PhraseTo n text steps inner →
    readPhrase? n text = some (phrase, rest) → ReadsStringAt inner steps (phrase.value? = some ·)
  items {i text steps items rest} : ItemsTo n i text steps inner →
    readItems? n text = some (items, rest) → ReadsStringAt inner steps (IsArrayFrom i items)
  members {text steps members rest} : MembersTo n text steps inner →
    readMembers? n text = some (members, rest) → ReadsStringAt inner steps (IsTableAfter members)

section

variable {n i : Nat} {text rest inner : List Char} {steps : List Step}

/-- A value begins with neither of the brackets that end arrays and tables. -/
lemma PhraseTo.head?_ne (h : PhraseTo n text steps ('"' :: inner)) :
    text.head? ≠ some ']' ∧ text.head? ≠ some '\x7d' := by
  cases h <;> simp

lemma readItems?_item {items : List Phrase} (hopen : (skipAll text).head? ≠ some ']')
    (h : readItems? (n + 1) text = some (items, rest)) :
    ∃ item rest' items', readPhrase? n (skipAll text) = some (item, rest') ∧ items = item :: items' ∧
      ∀ text', skipAll rest' = ',' :: text' → readItems? n text' = some (items', rest) := by
  rw [readItems?] at h
  split at h
  · next hclose => simp [hclose] at hopen
  split at h
  · simp at h
  next item rest' hitem =>
  split at h
  · next text' hrest =>
    obtain ⟨⟨items', rest''⟩, hread, hpair⟩ := Option.map_eq_some_iff.mp h
    obtain ⟨rfl, rfl⟩ := Prod.mk.inj hpair
    refine ⟨item, rest', items', hitem, rfl, fun text'' htext => ?_⟩
    obtain rfl := (List.cons.inj (hrest.symm.trans htext)).2
    exact hread
  · next hrest =>
    obtain ⟨rfl, rfl⟩ := Prod.mk.inj (Option.some.inj h)
    refine ⟨item, rest', [], hitem, rfl, fun text' htext => ?_⟩
    simp [hrest] at htext
  · simp at h

lemma readMembers?_member {key : List String} {text' : List Char} {members : List Assignment}
    (hopen : (skipAll text).head? ≠ some '\x7d')
    (hkey : readKey? (skipAll text).length (skipAll text) = some (key, '=' :: text'))
    (h : readMembers? (n + 1) text = some (members, rest)) :
    ∃ value rest' members', readPhrase? n (skipSpaces text') = some (value, rest') ∧
      members = (key, value) :: members' ∧
      ∀ text'', skipAll rest' = ',' :: text'' → readMembers? n text'' = some (members', rest) := by
  rw [readMembers?] at h
  split at h
  · next hclose => simp [hclose] at hopen
  simp only [hkey] at h
  split at h
  · simp at h
  next value rest' hvalue =>
  split at h
  · next text'' hrest =>
    obtain ⟨⟨members', rest''⟩, hread, hpair⟩ := Option.map_eq_some_iff.mp h
    obtain ⟨rfl, rfl⟩ := Prod.mk.inj hpair
    refine ⟨value, rest', members', hvalue, rfl, fun text'' htext => ?_⟩
    obtain rfl := (List.cons.inj (hrest.symm.trans htext)).2
    exact hread
  · next hrest =>
    obtain ⟨rfl, rfl⟩ := Prod.mk.inj (Option.some.inj h)
    refine ⟨value, rest', [], hvalue, rfl, fun text'' htext => ?_⟩
    simp [hrest] at htext
  · simp at h

/-- The string at the place of a value is the value. -/
lemma readPhrase?_here {phrase : Phrase} (h : readPhrase? n ('"' :: inner) = some (phrase, rest)) :
    ReadsStringAt ('"' :: inner) [] (phrase.value? = some ·) := by
  cases n with
  | zero => simp [readPhrase?] at h
  | succ n =>
      rw [readPhrase?] at h
      obtain ⟨⟨s, rest'⟩, hs, hpair⟩ := Option.map_eq_some_iff.mp h
      obtain ⟨rfl, -⟩ := Prod.mk.inj hpair
      refine ⟨s, rest', hs, fun v hv => ?_⟩
      obtain rfl := Option.some.inj hv
      rfl

lemma phraseValues?_cons {item : Phrase} {items : List Phrase} {vs : List Toml}
    (h : phraseValues? (item :: items) = some vs) :
    ∃ v vs', item.value? = some v ∧ phraseValues? items = some vs' ∧ vs = v :: vs' := by
  rw [phraseValues?] at h
  split at h
  · next v vs' hv hvs => exact ⟨v, vs', hv, hvs, (Option.some.inj h).symm⟩
  · simp at h

lemma ReadsPlaces.items_succ (ih : ReadsPlaces n ('"' :: inner)) {items : List Phrase}
    (h : ItemsTo (n + 1) i text steps ('"' :: inner))
    (hread : readItems? (n + 1) text = some (items, rest)) :
    ReadsStringAt ('"' :: inner) steps (IsArrayFrom i items) := by
  cases h with
  | here h =>
      obtain ⟨item, rest', items', hitem, rfl, -⟩ := readItems?_item h.head?_ne.1 hread
      refine (ih.phrase h hitem).imp ?_
      rintro - ⟨front, vs, rfl, hvs, rfl⟩
      obtain ⟨v, vs', hv, -, rfl⟩ := phraseValues?_cons hvs
      exact ⟨v, hv, by simp [at?]⟩
  | next hopen hitem hrest h =>
      obtain ⟨item, rest', items', hitem', rfl, hmore⟩ := readItems?_item hopen hread
      obtain ⟨rfl, rfl⟩ := Prod.mk.inj (Option.some.inj (hitem.symm.trans hitem'))
      refine (ih.items h (hmore _ hrest)).imp ?_
      rintro - ⟨front, vs, rfl, hvs, rfl⟩
      obtain ⟨v, vs', -, hvs', rfl⟩ := phraseValues?_cons hvs
      exact ⟨_, ⟨front ++ [v], vs', by simp, hvs', rfl⟩, by simp⟩

lemma ReadsPlaces.members_succ (ih : ReadsPlaces n ('"' :: inner)) {members : List Assignment}
    (h : MembersTo (n + 1) text steps ('"' :: inner))
    (hread : readMembers? (n + 1) text = some (members, rest)) :
    ReadsStringAt ('"' :: inner) steps (IsTableAfter members) := by
  cases h with
  | @here _ _ key _ _ _ hopen hkey h =>
      obtain ⟨value, rest', members', hvalue, rfl, -⟩ := readMembers?_member hopen hkey hread
      obtain ⟨s, rest'', hs, hat⟩ := ih.phrase h hvalue
      refine ⟨s, rest'', hs, ?_⟩
      rintro - ⟨ms, ms', hms, rfl⟩
      have hfirst : tableMembers? ([] ++ (key, value) :: members') ms = some ms' := hms
      exact tableMembers?_at hat hfirst
  | next hopen hkey hvalue hrest h =>
      obtain ⟨value, rest', members', hvalue', rfl, hmore⟩ := readMembers?_member hopen hkey hread
      obtain ⟨rfl, rfl⟩ := Prod.mk.inj (Option.some.inj (hvalue.symm.trans hvalue'))
      refine (ih.members h (hmore _ hrest)).imp ?_
      rintro - ⟨ms, ms', hms, rfl⟩
      rw [tableMembers?] at hms
      split at hms
      · simp at hms
      · split at hms
        · simp at hms
        · exact ⟨_, ⟨_, ms', hms, rfl⟩, rfl⟩

lemma ReadsPlaces.phrase_succ (ih : ReadsPlaces n ('"' :: inner)) {phrase : Phrase}
    (h : PhraseTo (n + 1) text steps ('"' :: inner))
    (hread : readPhrase? (n + 1) text = some (phrase, rest)) :
    ReadsStringAt ('"' :: inner) steps (phrase.value? = some ·) := by
  cases h with
  | here => exact readPhrase?_here hread
  | array hitems =>
      rw [readPhrase?] at hread
      obtain ⟨⟨items, rest'⟩, hrest, hpair⟩ := Option.map_eq_some_iff.mp hread
      obtain ⟨rfl, -⟩ := Prod.mk.inj hpair
      refine (ih.items hitems hrest).imp fun v hv => ?_
      obtain ⟨vs, hvs, rfl⟩ := Option.map_eq_some_iff.mp hv
      exact ⟨_, ⟨[], vs, rfl, hvs, rfl⟩, rfl⟩
  | table hmembers =>
      rw [readPhrase?] at hread
      obtain ⟨⟨members, rest'⟩, hrest, hpair⟩ := Option.map_eq_some_iff.mp hread
      obtain ⟨rfl, -⟩ := Prod.mk.inj hpair
      refine (ih.members hmembers hrest).imp fun v hv => ?_
      obtain ⟨ms, hms, rfl⟩ := Option.map_eq_some_iff.mp hv
      exact ⟨_, ⟨[], ms, hms, rfl⟩, rfl⟩

theorem readsPlaces (n : Nat) (inner : List Char) : ReadsPlaces n ('"' :: inner) := by
  induction n with
  | zero =>
      constructor
      · intro text steps phrase rest _ hread
        simp [readPhrase?] at hread
      · intro i text steps items rest h
        cases h
      · intro text steps members rest h
        cases h
  | succ n ih => exact ⟨ih.phrase_succ, ih.items_succ, ih.members_succ⟩

end

/-! ## The string at a place of a document -/

section

variable {n : Nat} {header : Header} {body : List Assignment} {text rest inner : List Char}
  {sections : List Section} {ms ms' : Members} {steps : List Step}

lemma readSections?_header (hopen : skipAll text = '[' :: rest)
    (h : readSections? (n + 1) header body text = some sections) :
    ∃ next rest' sections', readHeader? rest = some (next, rest') ∧
      readSections? n next [] rest' = some sections' ∧ sections = ⟨header, body⟩ :: sections' := by
  rw [readSections?] at h
  simp only [hopen] at h
  split at h
  · simp at h
  · next next rest' hheader =>
    obtain ⟨sections', hread, rfl⟩ := Option.map_eq_some_iff.mp h
    exact ⟨next, rest', sections', hheader, hread, rfl⟩

lemma readSections?_assignment (hempty : skipAll text ≠ []) (hopen : (skipAll text).head? ≠ some '[')
    (h : readSections? (n + 1) header body text = some sections) :
    ∃ assignment rest, readAssignment? (skipAll text) = some (assignment, rest) ∧
      readSections? n header (body ++ [assignment]) rest = some sections := by
  rw [readSections?] at h
  split at h
  · next hnil => exact absurd hnil hempty
  · next rest hbracket => simp [hbracket] at hopen
  · split at h
    · simp at h
    · next assignment rest hassignment => exact ⟨assignment, rest, hassignment, h⟩

/-- The first of the sections that are read is the one that was begun. -/
lemma readSections?_first (h : readSections? n header body text = some sections) :
    ∃ more sections', sections = ⟨header, body ++ more⟩ :: sections' := by
  induction n generalizing body text with
  | zero => simp [readSections?] at h
  | succ n ih =>
      by_cases hempty : skipAll text = []
      · rw [readSections?] at h
        simp only [hempty] at h
        exact ⟨[], [], by simpa using (Option.some.inj h).symm⟩
      by_cases hopen : ∃ rest, skipAll text = '[' :: rest
      · obtain ⟨rest, hopen⟩ := hopen
        obtain ⟨next, rest', sections', -, -, rfl⟩ := readSections?_header hopen h
        exact ⟨[], sections', by rw [List.append_nil]⟩
      · have hhead : (skipAll text).head? ≠ some '[' := by
          intro hhead
          obtain ⟨rest, hrest⟩ := List.head?_eq_some_iff.mp hhead
          exact hopen ⟨rest, hrest⟩
        obtain ⟨assignment, rest, -, hread⟩ := readSections?_assignment hempty hhead h
        obtain ⟨more, sections', rfl⟩ := ih hread
        exact ⟨assignment :: more, sections', by rw [List.append_assoc, List.singleton_append]⟩

lemma readAssignment?_value {assignment : Assignment} {key : List String} {rest' : List Char}
    (hkey : readKey? text.length text = some (key, '=' :: rest))
    (h : readAssignment? text = some (assignment, rest')) :
    ∃ value rest'', readPhrase? (rest.length + 1) (skipSpaces rest) = some (value, rest'') ∧
      assignment = (key, value) := by
  simp only [readAssignment?, hkey, Option.bind_eq_bind, Option.bind_some, List.head?_cons, List.tail_cons,
    if_true, Option.bind_eq_some_iff] at h
  obtain ⟨⟨value, rest₁⟩, hvalue, rest₂, -, hpair⟩ := h
  exact ⟨value, rest₁, hvalue, (Prod.mk.inj (Option.some.inj hpair)).1.symm⟩

/-- **The string at a place stands in the document**, whatever sections follow. -/
theorem SectionsTo.readsStringAt (h : SectionsTo ms header body text steps ('"' :: inner))
    (hread : readSections? n header body text = some sections)
    (hadd : sections.foldlM addSection ms = some ms') :
    ReadsStringAt ('"' :: inner) steps (· = tableOf ms') := by
  generalize htext : '"' :: inner = inner' at h ⊢
  induction h generalizing n sections with
  | @here ms header body text key rest steps inner' hopen hkey h =>
      subst htext
      cases n with
      | zero => simp [readSections?] at hread
      | succ n =>
      have hempty : skipAll text ≠ [] := by
        intro hnil
        simp [hnil, readKey?] at hkey
      obtain ⟨assignment, rest₁, hassignment, hmore⟩ := readSections?_assignment hempty hopen hread
      obtain ⟨value, rest₂, hvalue, rfl⟩ := readAssignment?_value hkey hassignment
      obtain ⟨after, sections', rfl⟩ := readSections?_first hmore
      obtain ⟨s, rest₃, hs, hat⟩ := (readsPlaces _ inner).phrase h hvalue
      refine ⟨s, rest₃, hs, ?_⟩
      rintro - rfl
      rw [List.foldlM_cons, Option.bind_eq_bind, Option.bind_eq_some_iff] at hadd
      obtain ⟨ms₁, hfirst, hlater⟩ := hadd
      refine addSections_keeps hlater _ _ (addSection_at (fun hbody => ?_) hfirst)
      rw [List.append_assoc, List.singleton_append] at hbody
      exact tableMembers?_at hat hbody
  | @assignment ms header body text assignment rest steps inner' hopen hassignment h ih =>
      cases n with
      | zero => simp [readSections?] at hread
      | succ n =>
      have hempty : skipAll text ≠ [] := by
        intro hnil
        simp [hnil, readAssignment?, readKey?] at hassignment
      obtain ⟨assignment', rest₁, hassignment', hmore⟩ := readSections?_assignment hempty hopen hread
      obtain ⟨rfl, rfl⟩ := Prod.mk.inj (Option.some.inj (hassignment.symm.trans hassignment'))
      exact ih hmore hadd htext
  | @header ms header body text rest next rest' ms₁ steps inner' hopen hheader hfirst h ih =>
      cases n with
      | zero => simp [readSections?] at hread
      | succ n =>
      obtain ⟨next', rest₁, sections', hheader', hmore, rfl⟩ := readSections?_header hopen hread
      obtain ⟨rfl, rfl⟩ := Prod.mk.inj (Option.some.inj (hheader.symm.trans hheader'))
      rw [List.foldlM_cons, hfirst] at hadd
      exact ih hmore hadd htext

end

/-- **The string that begins at a place stands in the document at the way there.** -/
theorem DocumentTo.at? {text : String} {inner : List Char} {steps : List Step} {t : Toml}
    (h : DocumentTo text.toList steps ('"' :: inner)) (hparse : parse? text = some t) :
    ∃ s rest, readQuoted? ('"' :: inner) = some (s, rest) ∧
      t.at? steps = some (.string (String.ofList s)) := by
  simp only [parse?, readDocument?, Option.bind_eq_bind, Option.bind_eq_some_iff] at hparse
  obtain ⟨sections, hread, ms, hadd, ht⟩ := hparse
  obtain ⟨s, rest, hs, hat⟩ := SectionsTo.readsStringAt h hread hadd
  exact ⟨s, rest, hs, hat t (Option.some.inj ht).symm⟩

end DirectorySearch.Toml
