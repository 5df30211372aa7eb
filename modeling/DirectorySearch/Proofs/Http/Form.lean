import DirectorySearch.Proofs.Text.Fields
import DirectorySearch.Proofs.Text.Utf8
import DirectorySearch.Text.Percent

/-!
# Reading form fields

The query of a URL is read as a form: pieces between ampersands, each a name and a value around its
first equals sign, a plus for a space, other characters byte by byte.  This file defines that reader and
shows that it reads back what the library writes.

* `readForm` — the reader; empty pieces count for nothing, and bytes that are no text are replaced.
* `readField_formEncode` — a name or a value comes back, whatever characters it has.
* **`readForm_joinFields`** — fields come back, in order.
* `readForm_append` — fields that are added behind an ampersand are read behind those before it.

The pieces fall apart where they were joined because an encoded name or value has neither an ampersand
nor an equals sign (`isFormChar_of_mem`).
-/

namespace DirectorySearch

/-! ## The reader -/

/-- A name or a value of a form. -/
def readField (text : List Char) : String :=
  String.ofList (decodeLossy (percentDecode (text.map fun c => if c = '+' then ' ' else c)))

/-- A name and a value around the first equals sign; without one there is only a name. -/
def readPair (piece : List Char) : String × String :=
  (readField (piece.takeWhile (· ≠ '=')), readField ((piece.dropWhile (· ≠ '=')).drop 1))

/-- **The fields of a form.** -/
def readForm (text : List Char) : List (String × String) :=
  ((fields '&' text).filter (!·.isEmpty)).map readPair

/-! ## Names and values -/

/-- The characters of an encoded name or value. -/
def isFormChar (c : Char) : Bool := isFormSafe c || c = '+' || c = '%'

lemma isFormSafe_upperHexDigit (n : Nat) : isFormSafe (upperHexDigit n) = true := by
  have all : ∀ m < 16, isFormSafe (Nat.digitChar m).toUpper = true := by decide
  exact all _ (Nat.mod_lt n (by decide))

lemma isFormChar_of_mem {text : List Char} {c : Char} (h : c ∈ formEncode text) :
    isFormChar c = true := by
  obtain ⟨d, -, hd⟩ := List.mem_flatMap.mp h
  split_ifs at hd with hsafe hspace
  · rw [List.mem_singleton.mp hd, isFormChar, hsafe]
    rfl
  · rw [List.mem_singleton.mp hd]
    rfl
  · obtain ⟨b, -, hb⟩ := List.mem_flatMap.mp hd
    simp only [percentByte, List.mem_cons, List.not_mem_nil, or_false] at hb
    rcases hb with rfl | rfl | rfl
    · rfl
    · rw [isFormChar, isFormSafe_upperHexDigit]
      rfl
    · rw [isFormChar, isFormSafe_upperHexDigit]
      rfl

lemma upperHexDigit_mod (n : Nat) : upperHexDigit (n % 16) = upperHexDigit n := by
  rw [upperHexDigit, upperHexDigit, Nat.mod_mod]

lemma percentDecode_percentByte (b : UInt8) (rest : List Char) :
    percentDecode (percentByte b ++ rest) = b :: percentDecode rest := by
  have hb : b.toNat < 256 := b.toNat_lt
  have hvalue : b.toNat / 16 * 16 + b.toNat % 16 = b.toNat := by omega
  rw [percentByte, ← upperHexDigit_mod b.toNat, List.cons_append, List.cons_append, List.cons_append,
    List.nil_append, percentDecode, hexValue?_upperHexDigit (by omega),
    hexValue?_upperHexDigit (by omega)]
  dsimp only
  rw [hvalue]
  simp

lemma percentDecode_of_ne {c : Char} (h : c ≠ '%') (rest : List Char) :
    percentDecode (c :: rest) = String.utf8EncodeChar c ++ percentDecode rest := by
  rw [percentDecode]
  rintro a b tail hc -
  exact h hc

/-- The bytes of a character come back from the way it is written in a form. -/
lemma percentDecode_formEncode (text rest : List Char) :
    percentDecode ((formEncode text).map (fun c => if c = '+' then ' ' else c) ++ rest)
      = utf8Bytes text ++ percentDecode rest := by
  induction text with
  | nil => rfl
  | cons c text ih =>
      rw [formEncode, List.flatMap_cons, ← formEncode, List.map_append, List.append_assoc, utf8Bytes,
        List.flatMap_cons, ← utf8Bytes, List.append_assoc, ← ih]
      generalize (formEncode text).map _ ++ rest = more
      split_ifs with hsafe hspace
      · have hplus : c ≠ '+' := by
          rintro rfl
          exact absurd hsafe (by decide)
        have hpercent : c ≠ '%' := by
          rintro rfl
          exact absurd hsafe (by decide)
        rw [List.map_singleton, if_neg hplus, List.singleton_append, percentDecode_of_ne hpercent]
      · rw [hspace, List.map_singleton, if_pos rfl, List.singleton_append,
          percentDecode_of_ne (by decide)]
      · rw [percentChar]
        generalize String.utf8EncodeChar c = bytes
        induction bytes with
        | nil => rfl
        | cons b bytes ihb =>
            have hplus : (percentByte b).map (fun c => if c = '+' then ' ' else c) = percentByte b := by
              have hdigit : ∀ n, upperHexDigit n ≠ '+' := fun n h => by
                have hsafe := isFormSafe_upperHexDigit n
                rw [h] at hsafe
                exact absurd hsafe (by decide)
              simp [percentByte, hdigit]
            rw [List.flatMap_cons, List.map_append, hplus, List.append_assoc,
              percentDecode_percentByte, ihb, List.cons_append]

/-- **A name or a value comes back.** -/
lemma readField_formEncode (s : String) : readField (formEncode s.toList) = s := by
  have hbytes := percentDecode_formEncode s.toList []
  rw [List.append_nil, percentDecode, List.append_nil] at hbytes
  rw [readField, hbytes, decodeLossy_utf8Bytes, String.ofList_toList]

/-! ## Fields -/

/-- Fields that are added behind an ampersand are read behind those before it. -/
theorem readForm_append (own added : List Char) :
    readForm (own ++ '&' :: added) = readForm own ++ readForm added := by
  rw [readForm, fields_append, List.filter_append, List.map_append]
  rfl

lemma readForm_formField (pair : String × String) :
    readForm (formEncode pair.1.toList ++ '=' :: formEncode pair.2.toList) = [pair] := by
  have hname : ∀ c ∈ formEncode pair.1.toList, decide (c ≠ '=') = true := fun c hc => by
    rw [decide_eq_true_eq]
    rintro rfl
    exact absurd (isFormChar_of_mem hc) (by decide)
  have hampersand : ∀ {s : List Char}, '&' ∉ formEncode s := fun hc =>
    absurd (isFormChar_of_mem hc) (by decide)
  have hpiece : '&' ∉ formEncode pair.1.toList ++ '=' :: formEncode pair.2.toList := by
    simp [hampersand]
  have hread : readPair (formEncode pair.1.toList ++ '=' :: formEncode pair.2.toList) = pair := by
    rw [readPair, List.takeWhile_append_of_pos hname, List.dropWhile_append_of_pos hname]
    simp [readField_formEncode]
  rw [readForm, fields_of_not_mem hpiece]
  simp [hread]

/-- **Fields come back, in order.** -/
theorem readForm_joinFields (pairs : List (String × String)) :
    readForm (joinFields '&' (formFields pairs)) = pairs := by
  induction pairs with
  | nil => rfl
  | cons pair pairs ih =>
      cases pairs with
      | nil => exact readForm_formField pair
      | cons next pairs =>
          have hjoin : joinFields '&' (formFields (pair :: next :: pairs))
              = (formEncode pair.1.toList ++ '=' :: formEncode pair.2.toList)
                ++ '&' :: joinFields '&' (formFields (next :: pairs)) := rfl
          rw [hjoin, readForm_append, readForm_formField, ih, List.singleton_append]

end DirectorySearch
