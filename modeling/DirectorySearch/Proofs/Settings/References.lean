import DirectorySearch.Settings.Expansion
import Mathlib.Data.List.TakeWhile
import Mathlib.Data.Nat.Find
import Mathlib.Tactic.Common

/-!
# The references of a line

A reference is a dollar sign and a name in braces.  The references of a line are found from the left:
each is the first that stands behind the end of the one before, so they do not overlap.  Those in front
of the first `#` are replaced by values, and everything else is copied.

* `Reference`, `Reference.StandsIn` — a reference, and that it stands somewhere in a line.
* `ReferencesFrom` — the references of a line from a place on; `exists_references` and
  `ReferencesFrom.unique` say that every line has one list of them.
* `activeReferences` — those in front of the first `#`.
* `copyWith` — the line with values in place of some references.
* **`scanLine_eq`** — the pieces of a line are its references in front of the first `#`, and the
  characters around them.
* `flatMap_piecesFrom`, `flatMap_text_scanLine` — pieces put together again, with values or as they were.

A `#` may stand inside a name.  The reference is in front of it then, and all that follows is not.
-/

namespace DirectorySearch

/-! ## References -/

/-- A reference to a name, as it is written. -/
def referenceText (name : List Char) : List Char := '$' :: '\x7b' :: (name ++ ['\x7d'])

/-- A reference: where it begins, and the name it refers to. -/
structure Reference where
  start : Nat
  name : List Char
deriving DecidableEq, Repr

namespace Reference

/-- A reference as it is written. -/
def text (r : Reference) : List Char := referenceText r.name

/-- Where a reference ends. -/
def stop (r : Reference) : Nat := r.start + r.text.length

/-- The variable that it refers to. -/
def variableName (r : Reference) : String := String.ofList r.name

/-- A reference stands in a line.  Its name has at least one character, and goes up to the first closing
brace. -/
structure StandsIn (r : Reference) (line : List Char) : Prop where
  name_ne : r.name ≠ []
  closing_not_mem : '\x7d' ∉ r.name
  text_isPrefix : r.text <+: line.drop r.start

end Reference

/-- **The references of a line from a place on**, from left to right. -/
inductive ReferencesFrom (line : List Char) : Nat → List Reference → Prop where
  | none {i} (h : ∀ r : Reference, r.StandsIn line → r.start < i) : ReferencesFrom line i []
  | next {i r refs} (hr : r.StandsIn line) (hi : i ≤ r.start)
      (hfirst : ∀ r' : Reference, r'.StandsIn line → i ≤ r'.start → r.start ≤ r'.start)
      (h : ReferencesFrom line r.stop refs) : ReferencesFrom line i (r :: refs)

/-- The references in front of the first `#` of the line. -/
def activeReferences (line : List Char) (refs : List Reference) : List Reference :=
  refs.filter fun r => '#' ∉ line.take r.start

/-- The line from a place on, with values in place of some references. -/
def copyWith (value : Reference → List Char) (line : List Char) : Nat → List Reference → List Char
  | i, [] => line.drop i
  | i, r :: refs => (line.drop i).take (r.start - i) ++ (value r ++ copyWith value line r.stop refs)

/-- The pieces of a line from a place on, some references among them. -/
def piecesFrom (line : List Char) : Nat → List Reference → List LinePiece
  | i, [] => (line.drop i).map .char
  | i, r :: refs =>
    ((line.drop i).take (r.start - i)).map .char ++ .reference r.name :: piecesFrom line r.stop refs

section

variable {line : List Char} {r r' : Reference} {refs refs' : List Reference} {i : Nat}

/-! ## One list of references -/

lemma Reference.StandsIn.stop_le (h : r.StandsIn line) : r.stop ≤ line.length := by
  have hlength := h.text_isPrefix.length_le
  have hpos : 0 < r.text.length := by simp [text, referenceText]
  rw [List.length_drop] at hlength
  rw [stop]
  omega

lemma Reference.start_lt_stop (r : Reference) : r.start < r.stop := by
  simp [stop, text, referenceText]

/-- A name goes up to the first closing brace. -/
lemma readReference?_eq_some_iff {text name rest : List Char} :
    readReference? text = some (name, rest)
      ↔ name ≠ [] ∧ '\x7d' ∉ name ∧ text = name ++ '\x7d' :: rest := by
  constructor
  · intro h
    unfold readReference? at h
    split at h
    · next c tail rest' htake hdrop =>
      obtain ⟨rfl, rfl⟩ := Prod.mk.inj (Option.some.inj h)
      refine ⟨List.cons_ne_nil _ _, fun hmem => ?_, ?_⟩
      · rw [← htake] at hmem
        simpa using List.mem_takeWhile_imp hmem
      · rw [← htake, ← hdrop, List.takeWhile_append_dropWhile]
    · cases h
  · rintro ⟨hne, hclosing, rfl⟩
    have hname : ∀ c ∈ name, decide (c ≠ '\x7d') = true := fun c hc =>
      decide_eq_true fun heq => hclosing (heq ▸ hc)
    obtain ⟨c, tail, rfl⟩ := List.exists_cons_of_ne_nil hne
    rw [readReference?, List.takeWhile_append_of_pos hname, List.dropWhile_append_of_pos hname]
    simp

lemma Reference.standsIn_iff : r.StandsIn line
    ↔ ∃ text rest, line.drop r.start = '$' :: '\x7b' :: text
      ∧ readReference? text = some (r.name, rest) := by
  constructor
  · rintro ⟨hne, hclosing, rest, htext⟩
    refine ⟨r.name ++ '\x7d' :: rest, rest, ?_, readReference?_eq_some_iff.mpr ⟨hne, hclosing, rfl⟩⟩
    rw [← htext, text, referenceText]
    simp
  · rintro ⟨text, rest, hdrop, hread⟩
    obtain ⟨hne, hclosing, rfl⟩ := readReference?_eq_some_iff.mp hread
    refine ⟨hne, hclosing, rest, ?_⟩
    rw [hdrop, Reference.text, referenceText]
    simp

/-- At one place stands one reference. -/
lemma Reference.StandsIn.eq_of_start (h : r.StandsIn line) (h' : r'.StandsIn line)
    (hstart : r.start = r'.start) : r = r' := by
  obtain ⟨text, rest, hdrop, hread⟩ := standsIn_iff.mp h
  obtain ⟨text', rest', hdrop', hread'⟩ := standsIn_iff.mp h'
  rw [hstart, hdrop'] at hdrop
  obtain rfl : text' = text := (List.cons.inj (List.cons.inj hdrop).2).2
  rw [hread'] at hread
  obtain ⟨start, name⟩ := r
  obtain ⟨start', name'⟩ := r'
  obtain rfl : start = start' := hstart
  obtain rfl : name' = name := (Prod.mk.inj (Option.some.inj hread)).1
  rfl

theorem ReferencesFrom.unique (h : ReferencesFrom line i refs) (h' : ReferencesFrom line i refs') :
    refs = refs' := by
  induction h generalizing refs' with
  | none hnone =>
      cases h' with
      | none => rfl
      | next hr hi => exact absurd (hnone _ hr) (by omega)
  | next hr hi hfirst _ ih =>
      cases h' with
      | none hnone => exact absurd (hnone _ hr) (by omega)
      | next hr' hi' hfirst' h' =>
          obtain rfl := hr.eq_of_start hr' (le_antisymm (hfirst _ hr' hi') (hfirst' _ hr hi))
          rw [ih h']

/-- From every place on, a line has a list of references. -/
theorem exists_references (line : List Char) (i : Nat) : ∃ refs, ReferencesFrom line i refs := by
  induction hn : line.length - i using Nat.strong_induction_on generalizing i with
  | _ n ih =>
  by_cases h : ∃ start, i ≤ start ∧ ∃ name, Reference.StandsIn ⟨start, name⟩ line
  · -- The first place at which one stands, and then those behind its end.
    classical
    obtain ⟨hi, name, hr⟩ := Nat.find_spec h
    have hstop := hr.stop_le
    have hlt := Reference.start_lt_stop ⟨Nat.find h, name⟩
    obtain ⟨refs, hrefs⟩ := ih (line.length - Reference.stop ⟨Nat.find h, name⟩)
      (by dsimp only at hlt; omega) _ rfl
    exact ⟨_, .next hr hi (fun r' hr' hi' => Nat.find_min' h ⟨hi', r'.name, hr'⟩) hrefs⟩
  · refine ⟨[], .none fun r hr => ?_⟩
    by_contra hstart
    exact h ⟨r.start, by omega, r.name, hr⟩

lemma ReferencesFrom.mem (h : ReferencesFrom line i refs) (hr : r ∈ refs) :
    i ≤ r.start ∧ r.StandsIn line := by
  induction h with
  | none => cases hr
  | @next i r' refs hr' hi hfirst h ih =>
      rcases List.mem_cons.mp hr with rfl | hr
      · exact ⟨hi, hr'⟩
      · have hlt := r'.start_lt_stop
        exact ⟨by have := (ih hr).1; omega, (ih hr).2⟩

/-- Where no reference stands, the search goes on. -/
lemma ReferencesFrom.skip (h : ReferencesFrom line i refs)
    (hnone : ∀ r : Reference, r.StandsIn line → r.start ≠ i) : ReferencesFrom line (i + 1) refs := by
  cases h with
  | none h => exact .none fun r hr => Nat.lt_succ_of_lt (h r hr)
  | next hr hi hfirst h =>
      have hne := hnone _ hr
      exact .next hr (by omega) (fun r' hr' hi' => hfirst r' hr' (by omega)) h

/-- Where a reference stands, it is the first. -/
lemma ReferencesFrom.eq_cons (h : ReferencesFrom line i refs) (hr : r.StandsIn line)
    (hstart : r.start = i) : ∃ refs', refs = r :: refs' ∧ ReferencesFrom line r.stop refs' := by
  cases h with
  | none h => exact absurd (h r hr) (by omega)
  | next hr' hi hfirst h =>
      obtain rfl := hr'.eq_of_start hr (by have := hfirst r hr (by omega); omega)
      exact ⟨_, rfl, h⟩

lemma Reference.StandsIn.take_stop (h : r.StandsIn line) :
    line.take r.stop = line.take r.start ++ r.text := by
  obtain ⟨rest, hrest⟩ := h.text_isPrefix
  rw [stop, List.take_add, ← hrest, List.take_left]

lemma Reference.StandsIn.hash_mem_take_stop (h : r.StandsIn line) :
    '#' ∈ line.take r.stop ↔ '#' ∈ line.take r.start ∨ '#' ∈ r.name := by
  simp [h.take_stop, text, referenceText]

/-! ## References in front of the first `#` -/

lemma activeReferences_eq_nil (h : ReferencesFrom line i refs) (hcomment : '#' ∈ line.take i) :
    activeReferences line refs = [] := by
  rw [activeReferences, List.filter_eq_nil_iff]
  intro r hr
  have hmem : '#' ∈ line.take r.start :=
    (List.take_prefix_take_left (h.mem hr).1).subset hcomment
  simpa using hmem

lemma activeReferences_cons (hcomment : '#' ∉ line.take r.start) :
    activeReferences line (r :: refs) = r :: activeReferences line refs := by
  rw [activeReferences, List.filter_cons_of_pos (by simpa using hcomment)]
  rfl

lemma drop_succ_of_drop {c : Char} {rest : List Char} (hdrop : line.drop i = c :: rest) :
    line.drop (i + 1) = rest := by
  rw [← List.tail_drop, hdrop, List.tail_cons]

lemma take_succ_of_drop {c : Char} {rest : List Char} (hdrop : line.drop i = c :: rest) :
    line.take (i + 1) = line.take i ++ [c] := by
  rw [List.take_add, hdrop, List.take_succ_cons, List.take_zero]

lemma hash_not_mem_take_succ {c : Char} {rest : List Char} (hdrop : line.drop i = c :: rest)
    (hcomment : '#' ∉ line.take i) (hc : c ≠ '#') : '#' ∉ line.take (i + 1) := by
  simp [take_succ_of_drop hdrop, hcomment, hc.symm]

/-- Where no reference stands, there is a character. -/
lemma ReferencesFrom.piecesFrom_char {c : Char} {rest : List Char} (h : ReferencesFrom line i refs)
    (hdrop : line.drop i = c :: rest) (hnone : ∀ r : Reference, r.StandsIn line → r.start ≠ i) :
    piecesFrom line i (activeReferences line refs)
      = .char c :: piecesFrom line (i + 1) (activeReferences line refs) := by
  have hrest := drop_succ_of_drop hdrop
  have hstart : ∀ r ∈ activeReferences line refs, i + 1 ≤ r.start := fun r hr =>
    ((h.skip hnone).mem (List.mem_filter.mp hr).1).1
  cases hrefs : activeReferences line refs with
  | nil => rw [piecesFrom, piecesFrom, hdrop, hrest, List.map_cons]
  | cons r refs =>
      obtain ⟨k, hk⟩ := Nat.exists_eq_add_of_le (hstart r (hrefs ▸ List.mem_cons_self))
      have htake : r.start - i = k + 1 := by omega
      have htake' : r.start - (i + 1) = k := by omega
      rw [piecesFrom, piecesFrom, hdrop, hrest, htake, htake', List.take_succ_cons, List.map_cons,
        List.cons_append]

/-- **The pieces of a line** from a place on that no `#` is in front of. -/
lemma scanLine_drop (h : ReferencesFrom line i refs) (hcomment : '#' ∉ line.take i) :
    scanLine (line.drop i) = piecesFrom line i (activeReferences line refs) := by
  -- Along the scanner; the place moves on, and with it what is left of the references.
  generalize htext : line.drop i = text
  fun_induction scanLine text generalizing i refs with
  | case1 =>
      have hrefs : refs = [] := by
        cases h with
        | none => rfl
        | @next _ r _ hr hi =>
            have hstop := hr.stop_le
            have hlt := r.start_lt_stop
            rw [List.drop_eq_nil_iff] at htext
            omega
      rw [hrefs, activeReferences, List.filter_nil, piecesFrom, htext, List.map_nil]
  | case2 rest =>
      have hmem : '#' ∈ line.take (i + 1) := by simp [take_succ_of_drop htext]
      have hnone : ∀ r : Reference, r.StandsIn line → r.start ≠ i := by
        rintro r hr rfl
        obtain ⟨_, _, hdrop, -⟩ := Reference.standsIn_iff.mp hr
        simp [htext] at hdrop
      rw [activeReferences_eq_nil (h.skip hnone) hmem, piecesFrom, htext, List.map_cons]
  | case3 rest name rest' hread ih =>
      have hr : Reference.StandsIn ⟨i, name⟩ line :=
        Reference.standsIn_iff.mpr ⟨rest, rest', htext, hread⟩
      obtain ⟨refs', rfl, h'⟩ := h.eq_cons hr rfl
      have hrest : line.drop (Reference.stop ⟨i, name⟩) = rest' := by
        obtain ⟨-, -, rfl⟩ := readReference?_eq_some_iff.mp hread
        rw [Reference.stop, ← List.drop_drop, htext, Reference.text, referenceText]
        simp
      have hmem := hr.hash_mem_take_stop
      rw [activeReferences_cons hcomment, piecesFrom, Nat.sub_self, List.take_zero, List.map_nil,
        List.nil_append]
      congr 1
      -- The first `#` of the line may stand in the name.
      split
      · next hname =>
        rw [activeReferences_eq_nil h' (hmem.mpr (Or.inr (by simpa using hname))), piecesFrom, hrest]
      · next hname =>
        exact ih h' (fun hhash => (hmem.mp hhash).elim hcomment (by simpa using hname)) hrest
  | case4 rest hread ih =>
      have hnone : ∀ r : Reference, r.StandsIn line → r.start ≠ i := by
        rintro r hr rfl
        obtain ⟨text, rest', hdrop, hread'⟩ := Reference.standsIn_iff.mp hr
        obtain rfl : rest = text := (List.cons.inj (List.cons.inj (htext.symm.trans hdrop)).2).2
        simp [hread] at hread'
      have hhash := hash_not_mem_take_succ htext hcomment (by decide)
      rw [h.piecesFrom_char htext hnone, ih (h.skip hnone) hhash (drop_succ_of_drop htext)]
  | case5 c rest hhash hopen ih =>
      have hnone : ∀ r : Reference, r.StandsIn line → r.start ≠ i := by
        rintro r hr rfl
        obtain ⟨text, rest', hdrop, -⟩ := Reference.standsIn_iff.mp hr
        obtain ⟨rfl, rfl⟩ := List.cons.inj (htext.symm.trans hdrop)
        exact hopen _ rfl rfl
      have hhash' := hash_not_mem_take_succ htext hcomment hhash
      rw [h.piecesFrom_char htext hnone, ih (h.skip hnone) hhash' (drop_succ_of_drop htext)]

/-- **The pieces of a line** are its references in front of the first `#`, and the characters around
them. -/
theorem scanLine_eq (h : ReferencesFrom line 0 refs) :
    scanLine line = piecesFrom line 0 (activeReferences line refs) := by
  simpa using scanLine_drop h (by simp)

/-! ## What the pieces come to -/

/-- A piece as it is written. -/
def LinePiece.text : LinePiece → List Char
  | .char c => [c]
  | .reference name => referenceText name

/-- Pieces are put together in a way that leaves characters as they are. -/
lemma flatMap_char {f : LinePiece → List Char} (hf : ∀ c, f (.char c) = [c]) (w : List Char) :
    (w.map LinePiece.char).flatMap f = w := by
  induction w with
  | nil => rfl
  | cons c w ih => rw [List.map_cons, List.flatMap_cons, hf, ih, List.singleton_append]

lemma flatMap_piecesFrom {f : LinePiece → List Char} (hf : ∀ c, f (.char c) = [c]) (line : List Char)
    (i : Nat) (refs : List Reference) :
    (piecesFrom line i refs).flatMap f = copyWith (fun r => f (.reference r.name)) line i refs := by
  induction refs generalizing i with
  | nil => exact flatMap_char hf _
  | cons r refs ih =>
      rw [piecesFrom, List.flatMap_append, List.flatMap_cons, flatMap_char hf, ih, copyWith]

/-- A line cut into pieces loses nothing. -/
theorem flatMap_text_scanLine (line : List Char) : (scanLine line).flatMap LinePiece.text = line := by
  have hchars := flatMap_char fun c => (rfl : LinePiece.text (.char c) = [c])
  fun_induction scanLine line with
  | case1 => rfl
  | case2 rest => rw [List.flatMap_cons, hchars, LinePiece.text, List.singleton_append]
  | case3 rest name rest' hread ih =>
      obtain ⟨-, -, rfl⟩ := readReference?_eq_some_iff.mp hread
      rw [List.flatMap_cons, LinePiece.text, referenceText]
      split <;> simp [*]
  | case4 rest hread ih => rw [List.flatMap_cons, ih, LinePiece.text, List.singleton_append]
  | case5 c rest hhash hopen ih => rw [List.flatMap_cons, ih, LinePiece.text, List.singleton_append]

lemma names_piecesFrom (line : List Char) (i : Nat) (refs : List Reference) :
    (piecesFrom line i refs).filterMap LinePiece.name? = refs.map Reference.variableName := by
  have hchars (text : List Char) : (text.map LinePiece.char).filterMap LinePiece.name? = [] := by
    simp [LinePiece.name?]
  induction refs generalizing i with
  | nil => exact hchars _
  | cons r refs ih =>
      rw [piecesFrom, List.filterMap_append, hchars, List.nil_append, List.filterMap_cons, ih]
      rfl

end

end DirectorySearch
