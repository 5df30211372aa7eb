import DirectorySearch.Proofs.Json.NumberForm
import DirectorySearch.Proofs.Json.Writing

/-!
# Which scalars keep their text

A scalar that is read from a text and written again need not be written as it was.  Truth values are, and
so are integers that fit 64 bits.  Any other number passes through a double, and comes back only if it had
the form in which doubles are written and the digits that the double is given.

* `NumberText.FitsInteger` — the numbers that are read as integers.
* `NumberText.IsKept` — the numbers that come back.
* **`NumberText.characters_eq_iff`** — these and no others are written as they were.
* `Written.scalarText_eq_iff` — so it is for scalars; strings and truth values always come back.
-/

namespace DirectorySearch

/-! ## Integers -/

/-- Digits go into the significand whole if their number fits 64 bits. -/
lemma takeSignificand_snd_eq_nil {digits : List Char} {n : ℕ} (hn : n ≤ maxUnsigned)
    (h : (takeSignificand n digits).2 = []) : Nat.ofDigitChars 10 digits n ≤ maxUnsigned := by
  induction digits generalizing n with
  | nil => exact hn
  | cons c digits ih =>
      have hnext : n * 10 + (c.toNat - '0'.toNat) = 10 * n + (c.toNat - '0'.toNat) := by
        rw [Nat.mul_comm]
      rw [takeSignificand, hnext] at h
      split_ifs at h with hle
      exact ih hle h

lemma takeSignificand_whole {digits : List Char} (h : digitsValue digits ≤ maxUnsigned) :
    takeSignificand 0 digits = (digitsValue digits, []) := by
  rw [digitsValue_eq] at h ⊢
  exact takeSignificand_eq h

namespace NumberText

/-- Whether a number is written as an integer and fits 64 bits. -/
structure FitsInteger (t : NumberText) : Prop where
  whole : t.isWhole = true
  natural : t.negative = false → digitsValue t.whole < 2 ^ 64
  negative : t.negative = true → 0 < digitsValue t.whole ∧ digitsValue t.whole ≤ 2 ^ 63

/-- **The numbers that come back**: integers of 64 bits, and decimals in standard form that are the
shortest of the double that they are read as. -/
def IsKept (t : NumberText) : Prop :=
  t.FitsInteger ∨ t.IsStandard ∧ ∃ x, t.value? = some (.float x) ∧ t.IsDecimalOf x

/-- An integer that fits 64 bits is read as one, and written with its digits. -/
lemma FitsInteger.exists_integer {t : NumberText} (h : t.FitsInteger) (ht : t.IsJson) :
    ∃ n, t.value? = some (.integer n) ∧ Json.integerText n = t.characters := by
  obtain ⟨negative, whole, fraction, exponent⟩ := t
  obtain ⟨hwhole, hnatural, hnegative⟩ := h
  obtain ⟨rfl, rfl⟩ : fraction = [] ∧ exponent = none := by simpa [isWhole] using hwhole
  dsimp only at hnatural hnegative
  have hmax : maxUnsigned = 2 ^ 64 - 1 := rfl
  have hle : digitsValue whole ≤ maxUnsigned := by
    cases negative with
    | false =>
        have hlt := hnatural rfl
        omega
    | true =>
        have hlt := (hnegative rfl).2
        omega
  have hread := takeSignificand_whole hle
  have hdigits : decimalDigits (digitsValue whole) = whole := by
    rcases ht.leading with hzero | ⟨d, ds, hds, hd⟩
    · obtain rfl : whole = ['0'] := hzero
      rfl
    · exact decimalDigits_digitsValue ht.whole_digits (congrArg List.head? hds) hd
  cases negative with
  | false =>
      refine ⟨digitsValue whole, by simp [value?, isWhole, hread], ?_⟩
      simp [characters, signed, Json.integerText, hdigits]
  | true =>
      obtain ⟨hpos, hrange⟩ := hnegative rfl
      refine ⟨-(digitsValue whole : ℤ), by simpa [value?, isWhole, hread, hpos] using hrange, ?_⟩
      obtain ⟨m, hm⟩ := Nat.exists_eq_add_one.mpr hpos
      rw [hm] at hdigits ⊢
      rw [show -((m + 1 : ℕ) : ℤ) = Int.negSucc m from rfl]
      simp [characters, signed, Json.integerText, hdigits]

/-- **A number is read as an integer only if it fits 64 bits**, and as a double otherwise. -/
lemma value?_cases {t : NumberText} {j : Json} (h : t.value? = some j) :
    (t.FitsInteger ∧ ∃ n, j = .integer n) ∨ ∃ x, j = .float x := by
  have hmax : maxUnsigned = 2 ^ 64 - 1 := rfl
  have hfloat : ∀ {y : Option Binary64}, y.map Json.float = some j → ∃ x, j = .float x := fun h => by
    obtain ⟨x, -, rfl⟩ := Option.map_eq_some_iff.mp h
    exact ⟨x, rfl⟩
  unfold value? at h
  dsimp only at h
  split_ifs at h with hwhole hnegative hrange
  · rw [Bool.and_eq_true, List.isEmpty_iff] at hwhole
    have hle := takeSignificand_snd_eq_nil (Nat.zero_le _) hwhole.2
    rw [← digitsValue_eq] at hle
    exact Or.inl ⟨⟨hwhole.1, fun _ => by omega, fun h => by simp [h] at hnegative⟩, _,
      (Option.some.inj h).symm⟩
  · rw [Bool.and_eq_true, List.isEmpty_iff] at hwhole
    have hle := takeSignificand_snd_eq_nil (Nat.zero_le _) hwhole.2
    rw [← digitsValue_eq] at hle
    rw [takeSignificand_whole hle, Bool.and_eq_true, decide_eq_true_eq, decide_eq_true_eq] at hrange
    exact Or.inl ⟨⟨hwhole.1, fun h => by simp [h] at hnegative, fun _ => hrange⟩, _,
      (Option.some.inj h).symm⟩
  · exact Or.inr ⟨_, (Option.some.inj h).symm⟩
  · split at h
    · exact Or.inr (hfloat h)
    · split_ifs at h
      · exact Or.inr ⟨_, (Option.some.inj h).symm⟩
      · exact Or.inr (hfloat h)
      · exact Or.inr (hfloat h)

/-- A number without point and exponent that does not fit 64 bits is read as a double. -/
lemma value?_of_dropped {t : NumberText} (hwhole : t.isWhole = true) {n : ℕ} {c : Char}
    {rest : List Char} (h : takeSignificand 0 t.whole = (n, c :: rest)) :
    t.value? = (scaledDouble? t.negative n (rest.length + 1)).map .float := by
  obtain ⟨negative, whole, fraction, exponent⟩ := t
  obtain ⟨rfl, rfl⟩ : fraction = [] ∧ exponent = none := by simpa [isWhole] using hwhole
  have hdropped : takeSignificand 0 whole = (n, c :: rest) := h
  simp [value?, significand, hdropped, takeSignificand]

/-- **Only these numbers are written as they were.** -/
theorem characters_eq_iff {t : NumberText} (ht : t.IsJson) {j : Json} (hj : t.value? = some j) :
    j.characters = t.characters ↔ t.IsKept := by
  by_cases hfits : t.FitsInteger
  · obtain ⟨n, hn, htext⟩ := hfits.exists_integer ht
    cases hn.symm.trans hj
    exact iff_of_true htext (Or.inl hfits)
  · obtain ⟨x, rfl⟩ := (value?_cases hj).resolve_left fun h => hfits h.1
    rw [Json.characters, scientific_eq_characters_iff ht, IsKept, or_iff_right hfits, hj]
    simp

end NumberText

/-! ## Scalars -/

/-- Whether a value is a text, a number or a truth value. -/
def Json.isScalar : Json → Bool
  | .string _ | .bool _ | .integer _ | .float _ => true
  | _ => false

/-- The text of a scalar: a text without its quotes, anything else as it is written. -/
def Json.scalarText : Json → String
  | .string s => s
  | j => j.text

namespace Written

/-- The text of a scalar that is written: of a string what it stands for, of anything else its
characters. -/
def scalarText? : Written → Option String
  | .string parts => (stringText? parts).map String.ofList
  | .number t => some (String.ofList t.characters)
  | .bool true => some "true"
  | .bool false => some "false"
  | _ => none

/-- The scalars that come back: all but some numbers. -/
def IsKept : Written → Prop
  | .number t => t.IsKept
  | _ => True

/-- **Which scalars keep their text**, read from a text and written again. -/
theorem scalarText_eq_iff {w : Written} {spelled : List Char} (hw : Spells w spelled) {j : Json}
    (hj : w.value? = some j) (hscalar : j.isScalar = true) :
    ∃ text, w.scalarText? = some text ∧ (j.scalarText = text ↔ w.IsKept) := by
  cases hw with
  | trueWord =>
      cases hj
      exact ⟨"true", rfl, iff_of_true rfl trivial⟩
  | falseWord =>
      cases hj
      exact ⟨"false", rfl, iff_of_true rfl trivial⟩
  | @number t ht =>
      refine ⟨_, rfl, ?_⟩
      have htext : j.scalarText = String.ofList j.characters := by
        rcases NumberText.value?_cases hj with ⟨-, n, rfl⟩ | ⟨x, rfl⟩ <;> rfl
      rw [htext, String.ofList_inj]
      exact NumberText.characters_eq_iff ht hj
  | @string parts text h =>
      obtain ⟨s, hs, rfl⟩ := Option.map_eq_some_iff.mp hj
      exact ⟨String.ofList s, by rw [scalarText?, hs, Option.map_some], iff_of_true rfl trivial⟩
  | nullWord =>
      cases hj
      cases hscalar
  | emptyArray | array =>
      rw [value?] at hj
      obtain ⟨items, -, rfl⟩ := Option.map_eq_some_iff.mp hj
      cases hscalar
  | emptyObject | object =>
      rw [value?] at hj
      obtain ⟨members, -, rfl⟩ := Option.map_eq_some_iff.mp hj
      cases hscalar

end Written

end DirectorySearch
