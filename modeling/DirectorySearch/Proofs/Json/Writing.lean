import DirectorySearch.Proofs.Json.Grammar
import Mathlib.Data.List.Nodup

/-!
# The texts that are written are texts that are read

The writer leaves no blanks, escapes what must be escaped and nothing else.  What it writes for a text,
for a number that is not negative and for an object of such values is a JSON text of that very value.

* `exists_spells_string`, `exists_spells_natural` — a text and a number.
* `Spellable` — the values a query is made of: the characters that are written for the value spell
  something that stands for the value.
* **`exists_isText_object`** — an object of spellable members is written as a text that names the same
  members, in the same order.
* **`Json.parse?_object`** — so the text is read as an object of these members.
-/

namespace DirectorySearch

open Written (Spells SpellsParts SpellsMembers IsText)

/-! ## Strings -/

lemma lowerHexDigit_mod (n : Nat) : lowerHexDigit (n % 16) = lowerHexDigit n := by
  rw [lowerHexDigit, lowerHexDigit, Nat.mod_mod]

/-- The four digits of a control character give its number. -/
lemma hexUnit?_control {n : Nat} (h : n < 0x20) :
    Written.hexUnit? '0' '0' (lowerHexDigit (n / 16)) (lowerHexDigit n) = some n := by
  have hzero : hexValue? '0' = some 0 := rfl
  rw [← lowerHexDigit_mod n, Written.hexUnit?, hzero, hexValue?_lowerHexDigit (by omega),
    hexValue?_lowerHexDigit (Nat.mod_lt n (by decide))]
  exact congrArg some (by omega)

lemma stringText?_unit {u : Nat} (h : u < 0xd800) (parts : List StringPart) :
    stringText? (.unit u :: parts) = (stringText? parts).map (Char.ofNat u :: ·) := by
  have hlow : isLowSurrogate u = false := by
    simp only [isLowSurrogate, Bool.and_eq_false_iff, decide_eq_false_iff_not]
    omega
  have hhigh : isHighSurrogate u = false := by
    simp only [isHighSurrogate, Bool.and_eq_false_iff, decide_eq_false_iff_not]
    omega
  rw [stringText?.eq_def]
  simp [hlow, hhigh]

/-- One character is written as one part. -/
lemma exists_part_escapeChar (c : Char) :
    ∃ part, (∀ {parts text}, SpellsParts parts text →
        SpellsParts (part :: parts) (Json.escapeChar c ++ text)) ∧
      ∀ parts, stringText? (part :: parts) = (stringText? parts).map (c :: ·) := by
  by_cases hescape : ∃ d, Json.escapeChar c = ['\\', d] ∧ Written.escape? d = some c
  · obtain ⟨d, hd, hc⟩ := hescape
    refine ⟨.char c, ?_, fun parts => rfl⟩
    intro parts text h
    rw [hd]
    exact .escape hc h
  · unfold Json.escapeChar at hescape ⊢
    split_ifs at hescape ⊢ with hq hb hn ht hr h8 hf hcontrol
    -- the seven characters with an escape of one letter
    iterate 7
      · subst c
        exact absurd ⟨_, rfl, rfl⟩ hescape
    · refine ⟨.unit c.toNat, fun h => .unit (hexUnit?_control hcontrol) h, fun parts => ?_⟩
      rw [stringText?_unit (by omega), Char.ofNat_toNat]
    · exact ⟨.char c, fun h => .bare (Nat.le_of_not_lt hcontrol) hq hb h, fun parts => rfl⟩

/-- **A text is written as a string that stands for it.** -/
lemma exists_spells_string (s : List Char) :
    ∃ parts, SpellsParts parts (s.flatMap Json.escapeChar) ∧ stringText? parts = some s := by
  induction s with
  | nil => exact ⟨[], .nil, rfl⟩
  | cons c s ih =>
      obtain ⟨parts, hparts, htext⟩ := ih
      obtain ⟨part, hspells, hstands⟩ := exists_part_escapeChar c
      exact ⟨part :: parts, hspells hparts, by rw [hstands, htext, Option.map_some]⟩

/-! ## Numbers -/

lemma le_ofDigitChars (digits : List Char) : ∀ n : Nat, n ≤ Nat.ofDigitChars 10 digits n := by
  induction digits with
  | nil => exact fun n => Nat.le_refl n
  | cons c digits ih =>
      intro n
      exact Nat.le_trans (by omega) (ih (10 * n + (c.toNat - '0'.toNat)))

/-- Digits whose number fits 64 bits all go into the significand. -/
lemma takeSignificand_eq {digits : List Char} : ∀ {n : Nat},
    Nat.ofDigitChars 10 digits n ≤ maxUnsigned →
      takeSignificand n digits = (Nat.ofDigitChars 10 digits n, []) := by
  induction digits with
  | nil => exact fun _ => rfl
  | cons c digits ih =>
      intro n h
      have hnext : n * 10 + (c.toNat - '0'.toNat) = 10 * n + (c.toNat - '0'.toNat) := by
        rw [Nat.mul_comm]
      have hle : 10 * n + (c.toNat - '0'.toNat) ≤ maxUnsigned := Nat.le_trans (le_ofDigitChars _ _) h
      rw [takeSignificand, hnext, if_pos hle]
      exact ih h

/-- **A number is written as digits that stand for it.** -/
lemma exists_spells_natural {n : Nat} (h : n ≤ maxUnsigned) :
    ∃ t : NumberText, Spells (.number t) (decimalDigits n) ∧ t.value? = some (.integer n) := by
  have hdigits := Nat.ofDigitChars_ten_toDigits (n := n)
  refine ⟨⟨false, decimalDigits n, [], none⟩, ?_, ?_⟩
  · have hcharacters : NumberText.characters ⟨false, decimalDigits n, [], none⟩ = decimalDigits n := by
      simp [NumberText.characters, signed]
    have hjson : NumberText.IsJson ⟨false, decimalDigits n, [], none⟩ := by
      refine ⟨?_, fun c hc => isDigit_of_mem_decimalDigits hc, by simp, by simp⟩
      rcases Nat.eq_zero_or_pos n with rfl | hn
      · exact Or.inl rfl
      · exact Or.inr (exists_decimalDigits_cons hn)
    have hspells := Spells.number hjson
    rwa [hcharacters] at hspells
  · have hread : takeSignificand 0 (decimalDigits n) = (n, []) := by
      rw [← decimalDigits] at hdigits
      rw [takeSignificand_eq (by rwa [hdigits]), hdigits]
    simp [NumberText.value?, NumberText.isWhole, hread]

/-! ## Objects -/

/-- What is written for the value spells something that stands for it. -/
def Spellable (j : Json) : Prop := ∃ w, Spells w j.characters ∧ w.value? = some j ∧ w.depth = 0

lemma spellable_string (s : String) : Spellable (.string s) := by
  obtain ⟨parts, hparts, htext⟩ := exists_spells_string s.toList
  refine ⟨.string parts, .string hparts, ?_, rfl⟩
  rw [Written.value?, htext, Option.map_some, String.ofList_toList]

lemma spellable_natural {n : Nat} (h : n ≤ maxUnsigned) : Spellable (.integer n) := by
  obtain ⟨t, ht, hvalue⟩ := exists_spells_natural h
  exact ⟨.number t, ht, hvalue, rfl⟩

/-- A member of a written object gives a field. -/
def StandsFor (member : List StringPart × Written) (field : String × Json) : Prop :=
  (stringText? member.1).map String.ofList = some field.1 ∧ member.2.value? = some field.2
    ∧ member.2.depth = 0

/-- The members after the first are written behind a comma each. -/
lemma exists_spellsMembers {key : String} {value : Json} {fields : List (String × Json)}
    (h : ∀ field ∈ (key, value) :: fields, Spellable field.2) :
    ∃ members text, SpellsMembers members text ∧
      List.Forall₂ StandsFor members ((key, value) :: fields) ∧
      text ++ ['\x7d']
        = Json.quote key.toList ++ ':' :: (value.characters ++ Json.memberCharacters fields) := by
  have hblanks : Written.Blanks [] := by simp [Written.Blanks]
  induction fields generalizing key value with
  | nil =>
      obtain ⟨w, hw, hvalue, hdepth⟩ := h (key, value) List.mem_cons_self
      obtain ⟨parts, hparts, hname⟩ := exists_spells_string key.toList
      refine ⟨_, _, .last hblanks hparts hblanks hblanks hw hblanks,
        .cons ⟨?_, hvalue, hdepth⟩ .nil, ?_⟩
      · rw [hname, Option.map_some, String.ofList_toList]
      · simp [Json.quote, Json.memberCharacters]
  | cons field fields ih =>
      obtain ⟨next, nextValue⟩ := field
      obtain ⟨w, hw, hvalue, hdepth⟩ := h (key, value) List.mem_cons_self
      obtain ⟨parts, hparts, hname⟩ := exists_spells_string key.toList
      obtain ⟨members, text, hmembers, hfields, htext⟩ :=
        ih fun field hfield => h field (List.mem_cons_of_mem _ hfield)
      refine ⟨_, _, .cons hblanks hparts hblanks hblanks hw hblanks hmembers,
        .cons ⟨?_, hvalue, hdepth⟩ hfields, ?_⟩
      · rw [hname, Option.map_some, String.ofList_toList]
      · simp [Json.quote, Json.memberCharacters, htext]

/-- **An object is written as a text of the same members.** -/
theorem exists_isText_object {fields : List (String × Json)} (h : ∀ field ∈ fields, Spellable field.2) :
    ∃ members, IsText (.object members) (Json.object fields).characters ∧
      List.Forall₂ StandsFor members fields := by
  have hblanks : Written.Blanks [] := by simp [Written.Blanks]
  cases fields with
  | nil => exact ⟨[], ⟨[], _, [], hblanks, .emptyObject hblanks, hblanks, rfl⟩, .nil⟩
  | cons field fields =>
      obtain ⟨key, value⟩ := field
      obtain ⟨members, text, hmembers, hfields, htext⟩ := exists_spellsMembers h
      refine ⟨members, ⟨[], _, [], hblanks, .object hmembers, hblanks, ?_⟩, hfields⟩
      rw [htext, Json.characters, List.nil_append, List.append_nil]

/-! ## Reading an object -/

lemma membersDepth_eq_zero {members : List (List StringPart × Written)}
    {fields : List (String × Json)} (h : List.Forall₂ StandsFor members fields) :
    Written.membersDepth members = 0 := by
  induction h with
  | nil => rfl
  | cons hmember _ ih => rw [Written.membersDepth, hmember.2.2, ih, Nat.max_self]

/-- Members are put into an object one after the other. -/
lemma memberValues?_eq {members : List (List StringPart × Written)} {fields : List (String × Json)}
    (h : List.Forall₂ StandsFor members fields) (sorted : List (String × Json)) :
    Written.memberValues? members sorted
      = some (fields.foldl (fun sorted field => insertMember field.1 field.2 sorted) sorted) := by
  induction h generalizing sorted with
  | nil => rfl
  | @cons member field members fields hmember _ ih =>
      obtain ⟨name, hname, hkey⟩ := Option.map_eq_some_iff.mp hmember.1
      rw [Written.memberValues?, hname, hmember.2.1]
      dsimp only
      rw [hkey, ih, List.foldl_cons]

/-- A member of a new key is added. -/
lemma insertMember_perm {α : Type} {key : String} (value : α) {members : List (String × α)}
    (h : key ∉ members.map Prod.fst) :
    (insertMember key value members).Perm ((key, value) :: members) := by
  induction members with
  | nil => exact List.Perm.refl _
  | cons member members ih =>
      obtain ⟨k, v⟩ := member
      simp only [List.map_cons, List.mem_cons, not_or] at h
      rw [insertMember]
      split_ifs with hlt heq
      · exact List.Perm.refl _
      · exact absurd heq h.1
      · exact ((ih h.2).cons _).trans (List.Perm.swap _ _ _)

/-- Members of different keys are all kept. -/
lemma foldl_insertMember_perm {α : Type} {fields sorted : List (String × α)}
    (h : ((sorted ++ fields).map Prod.fst).Nodup) :
    (fields.foldl (fun sorted field => insertMember field.1 field.2 sorted) sorted).Perm
      (sorted ++ fields) := by
  induction fields generalizing sorted with
  | nil => simp
  | cons field fields ih =>
      have hnew : field.1 ∉ sorted.map Prod.fst := by
        rw [List.map_append, List.map_cons] at h
        exact fun hmem => List.disjoint_of_nodup_append h hmem List.mem_cons_self
      have hinsert := insertMember_perm field.2 hnew
      have hperm : (insertMember field.1 field.2 sorted ++ fields).Perm
          (sorted ++ field :: fields) :=
        (hinsert.append_right fields).trans List.perm_middle.symm
      exact (ih ((hperm.map Prod.fst).nodup_iff.mpr h)).trans hperm

/-- **The text of an object is read as an object** of the same members, whatever their order. -/
theorem Json.parse?_object {fields : List (String × Json)} (h : ∀ field ∈ fields, Spellable field.2)
    (hkeys : (fields.map Prod.fst).Nodup) :
    ∃ members, Json.parse? (Json.object fields).text = some (.object members) ∧
      members.Perm fields := by
  obtain ⟨members, htext, hmembers⟩ := exists_isText_object h
  have hperm := @foldl_insertMember_perm _ fields [] (by simpa using hkeys)
  refine ⟨_, ?_, hperm⟩
  have hdepth : (Written.object members).depth ≤ Written.maxDepth := by
    rw [Written.depth, membersDepth_eq_zero hmembers]
    decide
  rw [Json.parse?, Json.text, String.toList_ofList, htext.read?]
  dsimp only
  rw [if_pos hdepth, Written.value?, memberValues?_eq hmembers, Option.map_some]

end DirectorySearch
