import DirectorySearch.Proofs.Decimal.Plain

/-!
# A JSON text is one line

The text of a value holds no blanks between its parts, and what could end a line inside a string is
written as an escape.  So no character of it comes before the space, whatever the value: a text that is
printed is one line.

* `printable_quote`, `printable_scientific` — strings and doubles, the two places where the characters
  are not the writer's own.
* **`Json.printable_characters`** — the text of any value.
* `Json.newline_not_mem_text` — it holds no line feed.
-/

namespace DirectorySearch

/-- A text without control characters. -/
def Printable (text : List Char) : Prop := ∀ c ∈ text, ' ' ≤ c

instance (text : List Char) : Decidable (Printable text) :=
  List.decidableBAll (fun c => ' ' ≤ c) text

namespace Printable

@[simp] theorem nil : Printable [] := by simp [Printable]

@[simp] theorem cons_iff {c : Char} {text : List Char} :
    Printable (c :: text) ↔ ' ' ≤ c ∧ Printable text := by
  simp [Printable]

@[simp] theorem append_iff {text more : List Char} :
    Printable (text ++ more) ↔ Printable text ∧ Printable more := by
  simp [Printable, or_imp, forall_and]

lemma of_subset {text whole : List Char} (h : Printable whole) (hsub : text ⊆ whole) :
    Printable text := fun c hc => h c (hsub hc)

end Printable

/-! ## Numbers -/

lemma space_le_of_isDigit {c : Char} (h : c.isDigit = true) : ' ' ≤ c := by
  rw [Char.isDigit, Bool.and_eq_true, decide_eq_true_eq, decide_eq_true_eq] at h
  exact UInt32.le_trans (by decide) h.1

lemma printable_decimalDigits (n : Nat) : Printable (decimalDigits n) :=
  fun _ hc => space_le_of_isDigit (isDigit_of_mem_decimalDigits hc)

lemma printable_signed {negative : Bool} {text : List Char} (h : Printable text) :
    Printable (signed negative text) := by
  cases negative
  · exact h
  · exact Printable.cons_iff.mpr ⟨by decide, h⟩

lemma printable_positional (c : Nat) (k : Int) : Printable (positional c k) := by
  have hdigits := printable_decimalDigits c
  have hzeros : ∀ n, Printable (List.replicate n '0') := fun n d hd => by
    rw [List.eq_of_mem_replicate hd]
    decide
  unfold positional
  dsimp only
  split
  · exact Printable.append_iff.mpr ⟨hdigits, hzeros _⟩
  · split
    · exact Printable.append_iff.mpr ⟨hdigits.of_subset (List.take_subset _ _),
        Printable.cons_iff.mpr ⟨by decide, hdigits.of_subset (List.drop_subset _ _)⟩⟩
    · simp only [Printable.cons_iff, Printable.append_iff]
      exact ⟨by decide, by decide, hzeros _, hdigits⟩

lemma printable_exponential (c : Nat) (k : Int) : Printable (exponential c k) := by
  have hexponent : ∀ (sign : Char) (n : Nat), ' ' ≤ sign →
      Printable ('e' :: sign :: decimalDigits n) := fun sign n hsign =>
    Printable.cons_iff.mpr ⟨by decide, Printable.cons_iff.mpr ⟨hsign, printable_decimalDigits n⟩⟩
  unfold exponential
  dsimp only
  refine Printable.append_iff.mpr ⟨?_, hexponent _ _ (by split <;> decide)⟩
  have hdigits := printable_decimalDigits c
  split
  · next d e rest hsplit =>
    rw [hsplit] at hdigits
    obtain ⟨hd, hrest⟩ := Printable.cons_iff.mp hdigits
    exact Printable.cons_iff.mpr ⟨hd, Printable.cons_iff.mpr ⟨by decide, hrest⟩⟩
  · exact hdigits

lemma printable_scientific (x : Binary64) : Printable x.scientific := by
  unfold Binary64.scientific
  split
  · exact printable_signed (by decide)
  · next m e _ _ =>
    generalize shortestDecimal .double .even m e = decimal
    obtain ⟨c, k⟩ := decimal
    refine printable_signed ?_
    split
    · split
      · exact Printable.append_iff.mpr ⟨printable_positional _ _, by decide⟩
      · exact printable_positional _ _
    · exact printable_exponential _ _
  · decide

/-! ## Strings and values -/

namespace Json

lemma printable_escapeChar (c : Char) : Printable (escapeChar c) := by
  have hdigit : ∀ n, ' ' ≤ lowerHexDigit n := fun n => by
    have all : ∀ m < 16, ' ' ≤ Nat.digitChar m := by decide
    exact all _ (Nat.mod_lt n (by decide))
  unfold escapeChar
  split_ifs with _ _ _ _ _ _ _ hlow
  all_goals try decide
  · simp only [Printable.cons_iff]
    exact ⟨by decide, by decide, by decide, by decide, hdigit _, hdigit _, Printable.nil⟩
  · exact Printable.cons_iff.mpr ⟨Nat.le_of_not_lt hlow, Printable.nil⟩

lemma printable_quote (s : List Char) : Printable (quote s) := by
  have hbody : Printable (s.flatMap escapeChar) := by
    intro c hc
    obtain ⟨a, -, ha⟩ := List.mem_flatMap.mp hc
    exact printable_escapeChar a c ha
  exact Printable.cons_iff.mpr ⟨by decide, Printable.append_iff.mpr ⟨hbody, by decide⟩⟩

lemma printable_integerText (n : Int) : Printable (integerText n) := by
  cases n with
  | ofNat n => exact printable_decimalDigits n
  | negSucc n => exact Printable.cons_iff.mpr ⟨by decide, printable_decimalDigits _⟩

mutual

/-- **The text of a value holds no control character.** -/
theorem printable_characters : ∀ j : Json, Printable j.characters
  | .null => by decide
  | .bool true => by decide
  | .bool false => by decide
  | .integer n => printable_integerText n
  | .float x => printable_scientific x
  | .string s => printable_quote s.toList
  | .array [] => by decide
  | .array (item :: items) => by
      rw [characters, Printable.cons_iff, Printable.append_iff]
      exact ⟨by decide, printable_characters item, printable_itemCharacters items⟩
  | .object [] => by decide
  | .object ((key, value) :: members) => by
      simp only [characters, Printable.cons_iff, Printable.append_iff]
      exact ⟨by decide, printable_quote _, by decide, printable_characters value,
        printable_memberCharacters members⟩

theorem printable_itemCharacters : ∀ items : List Json, Printable (itemCharacters items)
  | [] => by decide
  | item :: items => by
      rw [itemCharacters, Printable.cons_iff, Printable.append_iff]
      exact ⟨by decide, printable_characters item, printable_itemCharacters items⟩

theorem printable_memberCharacters :
    ∀ members : List (String × Json), Printable (memberCharacters members)
  | [] => by decide
  | (key, value) :: members => by
      simp only [memberCharacters, Printable.cons_iff, Printable.append_iff]
      exact ⟨by decide, printable_quote _, by decide, printable_characters value,
        printable_memberCharacters members⟩

end

lemma newline_not_mem_text (j : Json) : '\n' ∉ j.text.toList := by
  intro hmem
  rw [text, String.toList_ofList] at hmem
  exact absurd (printable_characters j '\n' hmem) (by decide)

end Json

end DirectorySearch
