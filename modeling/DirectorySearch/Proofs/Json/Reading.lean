import DirectorySearch.Proofs.Json.Grammar

/-!
# The reader takes only texts of the grammar

The converse of what stands in `Grammar`: whatever the reader takes off the front of a text was spelled
there.  So reading a text and being spelled by it are one thing, and a text spells at most one value.

* `readNumber?_spec`, `readString?_spec` — numbers and strings.
* **`ReadsOnly.all`** — values, items and members, with the blanks around them.
* **`read?_eq_some_iff`** — a text is read as a value exactly if it is a text of that value.
-/

namespace DirectorySearch

namespace Written

/-! ## Numbers -/

lemma readDigits_spec {text digits rest : List Char} (h : readDigits text = (digits, rest)) :
    text = digits ++ rest ∧ ∀ c ∈ digits, c.isDigit = true := by
  cases h
  exact ⟨List.takeWhile_append_dropWhile.symm, fun c hc => List.all_eq_true.mp List.all_takeWhile c hc⟩

lemma readWhole?_spec {text whole rest : List Char} (h : readWhole? text = some (whole, rest)) :
    text = whole ++ rest ∧ (whole = ['0'] ∨ ∃ d ds, whole = d :: ds ∧ d ≠ '0') ∧
      ∀ c ∈ whole, c.isDigit = true := by
  unfold readWhole? at h
  split at h
  · split at h
    · split_ifs at h with hc
      cases h
      exact ⟨rfl, Or.inl rfl, by simp⟩
    · cases h
      exact ⟨rfl, Or.inl rfl, by simp⟩
  · next c rest hzero =>
    split_ifs at h with hc
    obtain ⟨hsplit, hdigits⟩ := readDigits_spec (Option.some.inj h)
    refine ⟨hsplit, Or.inr ?_, hdigits⟩
    cases h
    exact ⟨c, _, List.takeWhile_cons_of_pos hc, fun h => hzero h⟩
  · cases h

lemma readFraction?_spec {text fraction rest : List Char}
    (h : readFraction? text = some (fraction, rest)) :
    text = (if fraction = [] then [] else '.' :: fraction) ++ rest ∧ ∀ c ∈ fraction, c.isDigit = true := by
  unfold readFraction? at h
  split at h
  · next tail =>
    cases hread : readDigits tail with
    | mk digits after =>
        obtain ⟨rfl, hdigits⟩ := readDigits_spec hread
        rw [hread] at h
        split at h
        · cases h
        · next hne =>
          cases h
          rw [if_neg (by simpa using hne)]
          exact ⟨rfl, hdigits⟩
  · cases h
    simp

lemma readSign_spec {text rest : List Char} {sign : Option Char} (h : readSign text = (sign, rest)) :
    text = sign.toList ++ rest ∧ ∀ c ∈ sign, c = '+' ∨ c = '-' := by
  unfold readSign at h
  split at h <;> cases h <;> simp

lemma readExponent?_spec {text rest : List Char} {exponent : Option ExponentText}
    (h : readExponent? text = some (exponent, rest)) :
    text = (exponent.map ExponentText.characters).getD [] ++ rest ∧ ∀ e ∈ exponent, e.IsJson := by
  unfold readExponent? at h
  split at h
  · next c tail =>
    split_ifs at h with hc
    · cases hsign : readSign tail with
      | mk sign digits =>
          obtain ⟨rfl, hsigns⟩ := readSign_spec hsign
          cases hread : readDigits digits with
          | mk digits after =>
              obtain ⟨rfl, hdigits⟩ := readDigits_spec hread
              rw [hsign] at h
              dsimp only at h
              rw [hread] at h
              split at h
              · cases h
              · next digits after hne heq =>
                cases heq
                cases h
                refine ⟨by simp [ExponentText.characters], ?_⟩
                rintro e ⟨⟩
                exact ⟨by simpa using hc, hsigns, by simpa using hne, hdigits⟩
    · cases h
      simp
  · cases h
    simp

/-- **What is read as a number was written there.** -/
lemma readNumber?_spec {text rest : List Char} {t : NumberText} (h : readNumber? text = some (t, rest)) :
    t.IsJson ∧ text = t.characters ++ rest := by
  have key : ∀ (negative : Bool) (body : List Char),
      ((readWhole? body).bind fun w => (readFraction? w.2).bind fun f =>
        (readExponent? f.2).bind fun e => some (NumberText.mk negative w.1 f.1 e.1, e.2))
          = some (t, rest) →
        t.IsJson ∧ signed negative body = t.characters ++ rest := by
    intro negative body h
    obtain ⟨⟨whole, text⟩, hwhole, h⟩ := Option.bind_eq_some_iff.mp h
    obtain ⟨⟨fraction, text⟩, hfraction, h⟩ := Option.bind_eq_some_iff.mp h
    obtain ⟨⟨exponent, text⟩, hexponent, h⟩ := Option.bind_eq_some_iff.mp h
    cases h
    obtain ⟨rfl, hlead, hdigits⟩ := readWhole?_spec hwhole
    obtain ⟨rfl, hfractions⟩ := readFraction?_spec hfraction
    obtain ⟨rfl, hexponents⟩ := readExponent?_spec hexponent
    refine ⟨⟨hlead, hdigits, hfractions, hexponents⟩, ?_⟩
    cases negative <;> simp [NumberText.characters, signed]
  by_cases hminus : ∃ tail, text = '-' :: tail
  · obtain ⟨tail, rfl⟩ := hminus
    exact key true tail h
  · rw [readNumber?] at h
    · exact key false text h
    · exact fun tail htail => hminus ⟨tail, htail⟩

/-! ## Strings -/

/-- **What is read as a string was written there**, up to its closing quote. -/
lemma readString?_spec {text rest : List Char} {parts : List StringPart}
    (h : readString? text = some (parts, rest)) :
    ∃ name, SpellsParts parts name ∧ text = name ++ '"' :: rest := by
  fun_induction readString? text generalizing parts rest with
  | case1 => cases h
  | case2 rest =>
      cases h
      exact ⟨[], .nil, rfl⟩
  | case3 a b c d tail u parts rest hread hunit ih =>
      cases h
      obtain ⟨name, hname, rfl⟩ := ih hread
      exact ⟨_, .unit hunit hname, rfl⟩
  | case4 => cases h
  | case5 c tail hu e parts rest hread hescape ih =>
      cases h
      obtain ⟨name, hname, rfl⟩ := ih hread
      exact ⟨_, .escape hescape hname, rfl⟩
  | case6 => cases h
  | case7 => cases h
  | case8 c tail hquote hunit hescape hc parts rest hread ih =>
      cases h
      obtain ⟨name, hname, rfl⟩ := ih hread
      simp only [Bool.or_eq_true, decide_eq_true_eq, not_or, Nat.not_lt] at hc
      exact ⟨_, .bare hc.1 hquote hc.2 hname, rfl⟩
  | case9 => cases h

/-! ## Values -/

lemma Blanks.append {gap more : List Char} (hgap : Blanks gap) (hmore : Blanks more) :
    Blanks (gap ++ more) :=
  fun c hc => (List.mem_append.mp hc).elim (hgap c) (hmore c)

/-- Blanks in front of the first item belong to it. -/
lemma SpellsItems.gap {items : List Written} {text gap : List Char} (h : SpellsItems items text)
    (hgap : Blanks gap) : SpellsItems items (gap ++ text) := by
  cases h with
  | last hfirst hitem hafter =>
      rw [← List.append_assoc]
      exact .last (hgap.append hfirst) hitem hafter
  | cons hfirst hitem hafter hitems =>
      rw [← List.append_assoc]
      exact .cons (hgap.append hfirst) hitem hafter hitems

lemma SpellsMembers.gap {members : List (List StringPart × Written)} {text gap : List Char}
    (h : SpellsMembers members text) (hgap : Blanks gap) : SpellsMembers members (gap ++ text) := by
  cases h with
  | last hfirst hname hbehind hbefore hvalue hafter =>
      rw [← List.append_assoc]
      exact .last (hgap.append hfirst) hname hbehind hbefore hvalue hafter
  | cons hfirst hname hbehind hbefore hvalue hafter hmembers =>
      rw [← List.append_assoc]
      exact .cons (hgap.append hfirst) hname hbehind hbefore hvalue hafter hmembers

/-- What the reader takes with a bound was spelled there. -/
structure ReadsOnly (n : Nat) : Prop where
  value : ∀ {text w rest}, readValue? n text = some (w, rest) →
    ∃ gap spelled, Blanks gap ∧ Spells w spelled ∧ text = gap ++ (spelled ++ rest)
  items : ∀ {text items rest}, readItems? n text = some (items, rest) →
    ∃ spelled, SpellsItems items spelled ∧ text = spelled ++ ']' :: rest
  members : ∀ {text members rest}, readMembers? n text = some (members, rest) →
    ∃ spelled, SpellsMembers members spelled ∧ text = spelled ++ '\x7d' :: rest

namespace ReadsOnly

variable {n : Nat}

lemma value_succ (hn : ReadsOnly n) {text rest : List Char} {w : Written}
    (h : readValue? (n + 1) text = some (w, rest)) :
    ∃ gap spelled, Blanks gap ∧ Spells w spelled ∧ text = gap ++ (spelled ++ rest) := by
  obtain ⟨gap, hgap, hsplit⟩ := exists_gap text
  refine ⟨gap, ?_⟩
  rw [readValue?] at h
  generalize skipBlanks text = body at h hsplit
  subst hsplit
  suffices hspelled : ∃ spelled, Spells w spelled ∧ body = spelled ++ rest by
    obtain ⟨spelled, hw, rfl⟩ := hspelled
    exact ⟨spelled, hgap, hw, rfl⟩
  split at h
  · cases h
    exact ⟨_, .nullWord, rfl⟩
  · cases h
    exact ⟨_, .trueWord, rfl⟩
  · cases h
    exact ⟨_, .falseWord, rfl⟩
  · split at h
    · next hread =>
      cases h
      obtain ⟨name, hname, rfl⟩ := readString?_spec hread
      exact ⟨_, .string hname, by simp⟩
    · cases h
  · next body =>
    obtain ⟨gap, hgap, hsplit⟩ := exists_gap body
    generalize skipBlanks body = body at h hsplit
    subst hsplit
    split at h
    · cases h
      exact ⟨_, .emptyArray hgap, by simp⟩
    · split at h
      · next hread =>
        cases h
        obtain ⟨spelled, hitems, rfl⟩ := hn.items hread
        exact ⟨_, .array (hitems.gap hgap), by simp⟩
      · cases h
  · next body =>
    obtain ⟨gap, hgap, hsplit⟩ := exists_gap body
    generalize skipBlanks body = body at h hsplit
    subst hsplit
    split at h
    · cases h
      exact ⟨_, .emptyObject hgap, by simp⟩
    · split at h
      · next hread =>
        cases h
        obtain ⟨spelled, hmembers, rfl⟩ := hn.members hread
        exact ⟨_, .object (hmembers.gap hgap), by simp⟩
      · cases h
  · split at h
    · next hread =>
      cases h
      obtain ⟨ht, rfl⟩ := readNumber?_spec hread
      exact ⟨_, .number ht, rfl⟩
    · cases h

lemma items_succ (hn : ReadsOnly n) {text rest : List Char} {items : List Written}
    (h : readItems? (n + 1) text = some (items, rest)) :
    ∃ spelled, SpellsItems items spelled ∧ text = spelled ++ ']' :: rest := by
  rw [readItems?] at h
  split at h
  · cases h
  · next item after hread =>
    obtain ⟨gap, spelled, hgap, hitem, rfl⟩ := hn.value hread
    obtain ⟨behind, hbehind, hsplit⟩ := exists_gap after
    generalize skipBlanks after = after' at h hsplit
    subst hsplit
    split at h
    · cases h
      exact ⟨_, .last hgap hitem hbehind, by simp⟩
    · split at h
      · next hread =>
        cases h
        obtain ⟨more, hitems, rfl⟩ := hn.items hread
        exact ⟨_, .cons hgap hitem hbehind hitems, by simp⟩
      · cases h
    · cases h

lemma members_succ (hn : ReadsOnly n) {text rest : List Char}
    {members : List (List StringPart × Written)}
    (h : readMembers? (n + 1) text = some (members, rest)) :
    ∃ spelled, SpellsMembers members spelled ∧ text = spelled ++ '\x7d' :: rest := by
  obtain ⟨gap, hgap, hsplit⟩ := exists_gap text
  rw [readMembers?] at h
  generalize skipBlanks text = body at h hsplit
  subst hsplit
  split at h
  · split at h
    · cases h
    · next key after hread =>
      obtain ⟨name, hname, rfl⟩ := readString?_spec hread
      obtain ⟨behind, hbehind, hsplit⟩ := exists_gap after
      generalize skipBlanks after = after' at h hsplit
      subst hsplit
      split at h
      · next body =>
        split at h
        · cases h
        · next value after hvalue =>
          obtain ⟨before, spelled, hbefore, hspelled, rfl⟩ := hn.value hvalue
          obtain ⟨closing, hclosing, hsplit⟩ := exists_gap after
          generalize skipBlanks after = after' at h hsplit
          subst hsplit
          split at h
          · cases h
            exact ⟨_, .last hgap hname hbehind hbefore hspelled hclosing, by simp⟩
          · split at h
            · next hmembers =>
              cases h
              obtain ⟨more, hmore, rfl⟩ := hn.members hmembers
              exact ⟨_, .cons hgap hname hbehind hbefore hspelled hclosing hmore, by simp⟩
            · cases h
          · cases h
      · cases h
  · cases h

/-- **Whatever the reader takes was spelled there.** -/
lemma all (n : Nat) : ReadsOnly n := by
  induction n with
  | zero => exact ⟨nofun, nofun, nofun⟩
  | succ n ih => exact ⟨ih.value_succ, ih.items_succ, ih.members_succ⟩

end ReadsOnly

lemma isText_of_read? {text : List Char} {w : Written} (h : read? text = some w) : IsText w text := by
  rw [read?] at h
  split at h
  · next w' rest hread =>
    split_ifs at h with hrest
    cases h
    obtain ⟨gap, spelled, hgap, hspelled, rfl⟩ := (ReadsOnly.all _).value hread
    refine ⟨gap, spelled, rest, hgap, hspelled, ?_, rfl⟩
    obtain ⟨after, hafter, hsplit⟩ := exists_gap rest
    rw [List.isEmpty_iff.mp hrest, List.append_nil] at hsplit
    rwa [hsplit]
  · cases h

/-- **Being read as a value is being a text of it.** -/
theorem read?_eq_some_iff {text : List Char} {w : Written} : read? text = some w ↔ IsText w text :=
  ⟨isText_of_read?, IsText.read?⟩

end Written

end DirectorySearch
