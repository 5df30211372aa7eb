import DirectorySearch.Proofs.Decimal.Plain

/-!
# The texts of JSON values

What a JSON text may look like, said without the reader, and that the reader takes all of it: blanks
between any two tokens, every escape inside strings, numbers of any form, values nested to any depth.

* `SpellsParts` — the characters between the quotes of a string.
* `Spells`, `SpellsItems`, `SpellsMembers` — the characters of a value, and of what stands between the
  brackets and the braces of arrays and objects that are not empty.
* `IsText` — a value with blanks around it.
* **`ReadsWithin.all`** — a value is read off the front of a text, whatever follows it that would not go
  on with a number.
* **`IsText.read?`** — a text is read as what it spells.

The reader counts down a bound; the length of a value is enough, because every value and every separator
takes a character.
-/

namespace DirectorySearch

namespace Written

/-! ## The grammar -/

/-- Whether a character may stand between tokens. -/
def isBlank (c : Char) : Bool := c = ' ' || c = '\t' || c = '\n' || c = '\r'

/-- Characters that may stand between tokens. -/
def Blanks (text : List Char) : Prop := ∀ c ∈ text, isBlank c = true

inductive SpellsParts : List StringPart → List Char → Prop
  | nil : SpellsParts [] []
  | bare {c : Char} {parts : List StringPart} {text : List Char} (hc : 0x20 ≤ c.toNat) (hq : c ≠ '"')
      (hb : c ≠ '\\') (h : SpellsParts parts text) : SpellsParts (.char c :: parts) (c :: text)
  | escape {c e : Char} {parts : List StringPart} {text : List Char} (hc : escape? c = some e)
      (h : SpellsParts parts text) : SpellsParts (.char e :: parts) ('\\' :: c :: text)
  | unit {a b c d : Char} {u : Nat} {parts : List StringPart} {text : List Char}
      (hu : hexUnit? a b c d = some u) (h : SpellsParts parts text) :
      SpellsParts (.unit u :: parts) ('\\' :: 'u' :: a :: b :: c :: d :: text)

mutual

/-- **The characters of a value**, from its first to its last. -/
inductive Spells : Written → List Char → Prop
  | nullWord : Spells .null ['n', 'u', 'l', 'l']
  | trueWord : Spells (.bool true) ['t', 'r', 'u', 'e']
  | falseWord : Spells (.bool false) ['f', 'a', 'l', 's', 'e']
  | number {t : NumberText} (h : t.IsJson) : Spells (.number t) t.characters
  | string {parts : List StringPart} {text : List Char} (h : SpellsParts parts text) :
      Spells (.string parts) ('"' :: (text ++ ['"']))
  | emptyArray {gap : List Char} (hgap : Blanks gap) : Spells (.array []) ('[' :: (gap ++ [']']))
  | array {items : List Written} {text : List Char} (h : SpellsItems items text) :
      Spells (.array items) ('[' :: (text ++ [']']))
  | emptyObject {gap : List Char} (hgap : Blanks gap) :
      Spells (.object []) ('\x7b' :: (gap ++ ['\x7d']))
  | object {members : List (List StringPart × Written)} {text : List Char}
      (h : SpellsMembers members text) : Spells (.object members) ('\x7b' :: (text ++ ['\x7d']))

/-- The characters of one or more items. -/
inductive SpellsItems : List Written → List Char → Prop
  | last {item : Written} {gap text after : List Char} (hgap : Blanks gap) (hitem : Spells item text)
      (hafter : Blanks after) : SpellsItems [item] (gap ++ (text ++ after))
  | cons {item : Written} {items : List Written} {gap text after rest : List Char} (hgap : Blanks gap)
      (hitem : Spells item text) (hafter : Blanks after) (hitems : SpellsItems items rest) :
      SpellsItems (item :: items) (gap ++ (text ++ (after ++ ',' :: rest)))

/-- The characters of one or more members. -/
inductive SpellsMembers : List (List StringPart × Written) → List Char → Prop
  | last {key : List StringPart} {value : Written} {gap name behind before text after : List Char}
      (hgap : Blanks gap) (hname : SpellsParts key name) (hbehind : Blanks behind)
      (hbefore : Blanks before) (hvalue : Spells value text) (hafter : Blanks after) :
      SpellsMembers [(key, value)]
        (gap ++ '"' :: (name ++ '"' :: (behind ++ ':' :: (before ++ (text ++ after)))))
  | cons {key : List StringPart} {value : Written} {members : List (List StringPart × Written)}
      {gap name behind before text after rest : List Char} (hgap : Blanks gap)
      (hname : SpellsParts key name) (hbehind : Blanks behind) (hbefore : Blanks before)
      (hvalue : Spells value text) (hafter : Blanks after) (hmembers : SpellsMembers members rest) :
      SpellsMembers ((key, value) :: members)
        (gap ++ '"' :: (name ++ '"' :: (behind ++ ':' :: (before ++ (text ++ (after ++ ',' :: rest))))))

end

/-- **A text that is one value**, with blanks around it. -/
def IsText (w : Written) (text : List Char) : Prop :=
  ∃ gap spelled after, Blanks gap ∧ Spells w spelled ∧ Blanks after ∧ text = gap ++ (spelled ++ after)

/-! ## Blanks and strings -/

/-- Whether no blank comes first. -/
def Begins (text : List Char) : Prop := ∀ c ∈ text.head?, isBlank c = false

/-- Whether nothing comes first that would go on with a number. -/
def EndsNumber (text : List Char) : Prop :=
  ∀ c ∈ text.head?, c.isDigit = false ∧ c ≠ '.' ∧ c ≠ 'e' ∧ c ≠ 'E'

lemma isBlank_iff {c : Char} : isBlank c = true ↔ c = ' ' ∨ c = '\t' ∨ c = '\n' ∨ c = '\r' := by
  simp [isBlank, or_assoc]

lemma isBlank_eq_false_of_isDigit {c : Char} (h : c.isDigit = true) : isBlank c = false := by
  by_contra hblank
  rw [Bool.not_eq_false, isBlank_iff] at hblank
  rcases hblank with rfl | rfl | rfl | rfl <;> exact absurd h (by decide)

lemma skipBlanks_gap {gap : List Char} (hgap : Blanks gap) (text : List Char) :
    skipBlanks (gap ++ text) = skipBlanks text :=
  List.dropWhile_append_of_pos hgap

lemma skipBlanks_of_begins {text : List Char} (htext : Begins text) : skipBlanks text = text := by
  cases text with
  | nil => rfl
  | cons c text => exact List.dropWhile_cons_of_neg (by simpa [isBlank] using htext c rfl)

lemma begins_cons (c : Char) (text : List Char) (hc : isBlank c = false) : Begins (c :: text) := by
  simpa [Begins] using hc

lemma endsNumber_cons (c : Char) (text : List Char)
    (hc : c.isDigit = false ∧ c ≠ '.' ∧ c ≠ 'e' ∧ c ≠ 'E') : EndsNumber (c :: text) := by
  simpa [EndsNumber] using hc

lemma skipBlanks_append {gap text : List Char} (hgap : Blanks gap) (htext : Begins text) :
    skipBlanks (gap ++ text) = text := by
  rw [skipBlanks_gap hgap, skipBlanks_of_begins htext]

/-- What is skipped is a gap. -/
lemma exists_gap (text : List Char) : ∃ gap, Blanks gap ∧ text = gap ++ skipBlanks text :=
  ⟨_, fun c hc => List.all_eq_true.mp List.all_takeWhile c hc, List.takeWhile_append_dropWhile.symm⟩

lemma endsNumber_gap {gap text : List Char} (hgap : Blanks gap) (htext : EndsNumber text) :
    EndsNumber (gap ++ text) := by
  intro c hc
  cases gap with
  | nil => exact htext c hc
  | cons d gap =>
      obtain rfl : d = c := by simpa using hc
      rcases isBlank_iff.mp (hgap d List.mem_cons_self) with rfl | rfl | rfl | rfl <;> decide

/-- **A string is read off the front of a text**, whatever follows its closing quote. -/
lemma SpellsParts.readString? {parts : List StringPart} {text : List Char} (h : SpellsParts parts text)
    (rest : List Char) : Written.readString? (text ++ '"' :: rest) = some (parts, rest) := by
  induction h with
  | nil => rfl
  | bare hc hq hb _ ih =>
      rw [List.cons_append, Written.readString?, ih]
      · have hlow : ¬ _ < 0x20 := Nat.not_lt.mpr hc
        simp [hb, hlow]
      · exact hq
      · intro a b c d tail h
        exact absurd h hb
      · intro c tail h
        exact absurd h hb
  | escape hc _ ih =>
      rw [List.cons_append, List.cons_append, Written.readString?, hc, ih]
      rintro a b d e tail rfl -
      exact absurd hc (by simp [escape?])
  | unit hu _ ih => simp [Written.readString?, hu, ih]

/-! ## Values -/

/-- What can come first in a value. -/
lemma Spells.exists_cons {w : Written} {text : List Char} (h : Spells w text) :
    ∃ c rest, text = c :: rest ∧ isBlank c = false ∧ c ≠ ']' ∧ c ≠ '\x7d' := by
  cases h with
  | number h =>
      obtain ⟨c, cs, hcs, hc⟩ := NumberText.exists_characters_cons h.leading h.whole_digits
      refine ⟨c, cs, hcs, ?_, ?_, ?_⟩
      · rcases hc with rfl | hc
        · decide
        · exact isBlank_eq_false_of_isDigit hc
      · rintro rfl
        exact absurd hc (by decide)
      · rintro rfl
        exact absurd hc (by decide)
  | _ => exact ⟨_, _, rfl, by decide, by decide, by decide⟩

lemma Spells.begins {w : Written} {text : List Char} (h : Spells w text) (rest : List Char) :
    Begins (text ++ rest) := by
  obtain ⟨c, cs, rfl, hc, -⟩ := h.exists_cons
  intro d hd
  obtain rfl : c = d := by simpa using hd
  exact hc

/-- The items of an array are not taken for its end. -/
lemma SpellsItems.skipBlanks_ne {items : List Written} {text : List Char} (h : SpellsItems items text)
    (rest tail : List Char) : skipBlanks (text ++ rest) ≠ ']' :: tail := by
  have key : ∀ {item : Written} {gap text : List Char} (more : List Char), Blanks gap →
      Spells item text → skipBlanks (gap ++ (text ++ more)) ≠ ']' :: tail := by
    intro item gap text more hgap hitem hskip
    rw [skipBlanks_append hgap (hitem.begins _)] at hskip
    obtain ⟨c, cs, rfl, -, hc, -⟩ := hitem.exists_cons
    exact hc (List.cons.inj hskip).1
  cases h with
  | last hgap hitem hafter => simpa using key _ hgap hitem
  | cons hgap hitem hafter hitems => simpa using key _ hgap hitem

/-- The members of an object are not taken for its end. -/
lemma SpellsMembers.skipBlanks_ne {members : List (List StringPart × Written)} {text : List Char}
    (h : SpellsMembers members text) (rest tail : List Char) :
    skipBlanks (text ++ rest) ≠ '\x7d' :: tail := by
  have key : ∀ {gap : List Char} (more : List Char), Blanks gap →
      skipBlanks (gap ++ '"' :: more) ≠ '\x7d' :: tail := by
    intro gap more hgap hskip
    rw [skipBlanks_append hgap (by simp [Begins, isBlank])] at hskip
    exact absurd (List.cons.inj hskip).1 (by decide)
  cases h with
  | last hgap => simpa using key _ hgap
  | cons hgap => simpa using key _ hgap

lemma readValue?_gap {gap : List Char} (hgap : Blanks gap) (n : Nat) (text : List Char) :
    readValue? n (gap ++ text) = readValue? n text := by
  cases n with
  | zero => rfl
  | succ n => rw [readValue?, readValue?, skipBlanks_gap hgap]

lemma readItems?_gap {gap : List Char} (hgap : Blanks gap) (n : Nat) (text : List Char) :
    readItems? n (gap ++ text) = readItems? n text := by
  cases n with
  | zero => rfl
  | succ n => rw [readItems?, readItems?, readValue?_gap hgap]

lemma readMembers?_gap {gap : List Char} (hgap : Blanks gap) (n : Nat) (text : List Char) :
    readMembers? n (gap ++ text) = readMembers? n text := by
  cases n with
  | zero => rfl
  | succ n => rw [readMembers?, readMembers?, skipBlanks_gap hgap]

/-- What the reader does with a bound: it reads values that are no longer than the bound, and items and
members that are shorter. -/
structure ReadsWithin (n : Nat) : Prop where
  value : ∀ {w text}, Spells w text → text.length ≤ n → ∀ rest, EndsNumber rest →
    readValue? n (text ++ rest) = some (w, rest)
  items : ∀ {items text}, SpellsItems items text → text.length < n → ∀ rest,
    readItems? n (text ++ ']' :: rest) = some (items, rest)
  members : ∀ {members text}, SpellsMembers members text → text.length < n → ∀ rest,
    readMembers? n (text ++ '\x7d' :: rest) = some (members, rest)

namespace ReadsWithin

variable {n : Nat}

lemma value_succ (hn : ReadsWithin n) {w : Written} {text : List Char} (h : Spells w text)
    (hlength : text.length ≤ n + 1) (rest : List Char) (hrest : EndsNumber rest) :
    readValue? (n + 1) (text ++ rest) = some (w, rest) := by
  rw [readValue?, skipBlanks_of_begins (h.begins rest)]
  cases h with
  | nullWord => rfl
  | trueWord => rfl
  | falseWord => rfl
  | number h =>
      have hread := readNumber?_characters h hrest
      obtain ⟨c, cs, hcs, hc⟩ := NumberText.exists_characters_cons h.leading h.whole_digits
      rw [hcs, List.cons_append] at hread ⊢
      -- a number starts with none of the characters that announce another value
      split
      iterate 6
        next heq =>
          rw [(List.cons.inj heq).1] at hc
          exact absurd hc (by decide)
      rw [hread]
  | string h => simp [h.readString?]
  | emptyArray hgap =>
      simp [skipBlanks_append hgap (begins_cons ']' rest rfl)]
  | @array items text h =>
      have hend := h.skipBlanks_ne (']' :: rest)
      have hitems := hn.items h (by simp at hlength; omega) rest
      obtain ⟨gap, hgap, hsplit⟩ := exists_gap (text ++ ']' :: rest)
      rw [hsplit, readItems?_gap hgap] at hitems
      simp only [List.cons_append, List.append_assoc, List.nil_append]
      rw [hitems]
  | emptyObject hgap =>
      simp [skipBlanks_append hgap (begins_cons '\x7d' rest rfl)]
  | @object members text h =>
      have hend := h.skipBlanks_ne ('\x7d' :: rest)
      have hmembers := hn.members h (by simp at hlength; omega) rest
      obtain ⟨gap, hgap, hsplit⟩ := exists_gap (text ++ '\x7d' :: rest)
      rw [hsplit, readMembers?_gap hgap] at hmembers
      simp only [List.cons_append, List.append_assoc, List.nil_append]
      rw [hmembers]

lemma items_succ (hn : ReadsWithin n) {items : List Written} {text : List Char}
    (h : SpellsItems items text) (hlength : text.length < n + 1) (rest : List Char) :
    readItems? (n + 1) (text ++ ']' :: rest) = some (items, rest) := by
  cases h with
  | last hgap hitem hafter =>
      have hread := hn.value hitem (by simp at hlength; omega) _
        (endsNumber_gap hafter (endsNumber_cons ']' rest (by decide)))
      simp only [List.append_assoc]
      rw [readItems?, readValue?_gap hgap, hread]
      simp [skipBlanks_append hafter (begins_cons ']' rest rfl)]
  | @cons item items gap text after more hgap hitem hafter hitems =>
      have hread := hn.value hitem (by simp at hlength; omega) _
        (endsNumber_gap hafter (endsNumber_cons ',' (more ++ ']' :: rest) (by decide)))
      simp only [List.append_assoc, List.cons_append]
      rw [readItems?, readValue?_gap hgap, hread]
      simp only [skipBlanks_append hafter (begins_cons ',' (more ++ ']' :: rest) rfl)]
      rw [hn.items hitems (by simp at hlength; omega)]

lemma members_succ (hn : ReadsWithin n) {members : List (List StringPart × Written)}
    {text : List Char} (h : SpellsMembers members text) (hlength : text.length < n + 1)
    (rest : List Char) :
    readMembers? (n + 1) (text ++ '\x7d' :: rest) = some (members, rest) := by
  cases h with
  | last hgap hname hbehind hbefore hvalue hafter =>
      have hread := hn.value hvalue (by simp at hlength; omega) _
        (endsNumber_gap hafter (endsNumber_cons '\x7d' rest (by decide)))
      simp only [List.append_assoc, List.cons_append]
      rw [readMembers?, skipBlanks_append hgap (by simp [Begins, isBlank])]
      simp only [hname.readString?]
      rw [skipBlanks_append hbehind (by simp [Begins, isBlank])]
      simp only [readValue?_gap hbefore, hread]
      simp [skipBlanks_append hafter (begins_cons '\x7d' rest rfl)]
  | @cons key value members gap name behind before text after more hgap hname hbehind hbefore hvalue
      hafter hmembers =>
      have hread := hn.value hvalue (by simp at hlength; omega) _
        (endsNumber_gap hafter (endsNumber_cons ',' (more ++ '\x7d' :: rest) (by decide)))
      simp only [List.append_assoc, List.cons_append]
      rw [readMembers?, skipBlanks_append hgap (by simp [Begins, isBlank])]
      simp only [hname.readString?]
      rw [skipBlanks_append hbehind (by simp [Begins, isBlank])]
      simp only [readValue?_gap hbefore, hread]
      simp only [skipBlanks_append hafter (begins_cons ',' (more ++ '\x7d' :: rest) rfl)]
      rw [hn.members hmembers (by simp at hlength; omega)]

/-- **The reader takes every value within its bound.** -/
lemma all (n : Nat) : ReadsWithin n := by
  induction n with
  | zero =>
      refine ⟨?_, ?_, ?_⟩
      · intro w text h hlength
        obtain ⟨c, cs, rfl, -⟩ := h.exists_cons
        simp at hlength
      · intro items text h hlength
        exact absurd hlength (Nat.not_lt_zero _)
      · intro members text h hlength
        exact absurd hlength (Nat.not_lt_zero _)
  | succ n ih => exact ⟨ih.value_succ, ih.items_succ, ih.members_succ⟩

end ReadsWithin

/-- **A text is read as what it spells.** -/
theorem IsText.read? {w : Written} {text : List Char} (h : IsText w text) :
    Written.read? text = some w := by
  obtain ⟨gap, spelled, after, hgap, hw, hafter, rfl⟩ := h
  have hends : EndsNumber after := by
    have hends : EndsNumber (after ++ []) := endsNumber_gap hafter (by simp [EndsNumber])
    rwa [List.append_nil] at hends
  have hvalue := (ReadsWithin.all _).value hw (n := (gap ++ (spelled ++ after)).length + 1)
    (by simp; omega) after hends
  have hskip : skipBlanks after = [] := by
    have hskip : skipBlanks (after ++ []) = [] := skipBlanks_append hafter (by simp [Begins])
    rwa [List.append_nil] at hskip
  rw [Written.read?, readValue?_gap hgap, hvalue]
  simp [hskip]

end Written

end DirectorySearch
