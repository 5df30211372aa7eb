import DirectorySearch.Proofs.Decimal.Plain
import Mathlib.Data.List.Induction

/-!
# Digits and the numbers they stand for

Digits without a zero in front of others are the digits of their value, so a number and its digits carry
each other's laws.

* `digitsValue_append`, `digitsValue_zeros` — the value of digits put together.
* **`decimalDigits_digitsValue`** — digits that do not start with a zero are those of their value.
* `decimalDigits_bounds` — a number lies between the powers of ten that its digits are counted by.
* `decimalDigits_mul_pow` — a power of ten adds zeros.
* `ten_dvd_digitsValue_iff` — what is divisible by ten ends in a zero.
-/

namespace DirectorySearch

variable {digits more : List Char}

/-! ## Values -/

lemma digitsValue_eq (digits : List Char) : digitsValue digits = Nat.ofDigitChars 10 digits 0 := by
  simp only [digitsValue, Nat.ofDigitChars, Nat.mul_comm]

lemma digitsValue_append (digits more : List Char) :
    digitsValue (digits ++ more) = digitsValue digits * 10 ^ more.length + digitsValue more := by
  rw [digitsValue_eq, digitsValue_eq, digitsValue_eq, Nat.ofDigitChars_append,
    Nat.ofDigitChars_eq_ofDigitChars_zero, Nat.mul_comm]

lemma digitsValue_zeros (k : Nat) : digitsValue (List.replicate k '0') = 0 := by
  rw [digitsValue_eq, Nat.ofDigitChars_replicate_zero, Nat.mul_zero]

lemma digitsValue_concat (digits : List Char) (c : Char) :
    digitsValue (digits ++ [c]) = digitsValue digits * 10 + digitsValue [c] := by
  rw [digitsValue_append, List.length_singleton, pow_one]

@[simp] lemma digitsValue_decimalDigits (n : Nat) : digitsValue (decimalDigits n) = n := by
  rw [digitsValue_eq]
  exact Nat.ofDigitChars_ten_toDigits

/-- A digit is the digit of its value, which is less than ten. -/
lemma digitsValue_singleton {c : Char} (h : c.isDigit = true) :
    digitsValue [c] < 10 ∧ Nat.digitChar (digitsValue [c]) = c := by
  have hc : '0'.toNat ≤ c.toNat ∧ c.toNat ≤ '9'.toNat := by
    simpa [Char.isDigit, UInt32.le_iff_toNat_le] using h
  have hlt : c.toNat - '0'.toNat < 10 := by
    have h0 : '0'.toNat = 48 := rfl
    have h9 : '9'.toNat = 57 := rfl
    omega
  have hvalue : digitsValue [c] = c.toNat - '0'.toNat := by simp [digitsValue]
  rw [hvalue]
  refine ⟨hlt, Char.toNat_inj.mp ?_⟩
  rw [Nat.toNat_digitChar_of_lt_ten hlt]
  exact Nat.add_sub_cancel' hc.1

lemma digitsValue_singleton_eq_zero {c : Char} (h : c.isDigit = true) :
    digitsValue [c] = 0 ↔ c = '0' := by
  constructor
  · intro hzero
    rw [← (digitsValue_singleton h).2, hzero]
    rfl
  · rintro rfl
    rfl

/-! ## Digits of a value -/

/-- The digits of a number with one more digit. -/
lemma decimalDigits_concat {n d : Nat} (hn : 0 < n) (hd : d < 10) :
    decimalDigits (n * 10 + d) = decimalDigits n ++ [Nat.digitChar d] := by
  have hdiv : (n * 10 + d) / 10 = n := by omega
  have hmod : (n * 10 + d) % 10 = d := by omega
  rw [decimalDigits, decimalDigits, Nat.toDigits_of_base_le (by decide) (by omega), hdiv, hmod]

/-- Digits that do not start with a zero have a positive value. -/
lemma digitsValue_pos (hdigits : ∀ c ∈ digits, c.isDigit = true) {d : Char}
    (hhead : digits.head? = some d) (hd : d ≠ '0') : 0 < digitsValue digits := by
  obtain ⟨rest, rfl⟩ := List.head?_eq_some_iff.mp hhead
  have hpos : 0 < digitsValue [d] := by
    rw [Nat.pos_iff_ne_zero, ne_eq, digitsValue_singleton_eq_zero (hdigits d List.mem_cons_self)]
    exact hd
  rw [← List.singleton_append, digitsValue_append]
  exact Nat.add_pos_left (Nat.mul_pos hpos (Nat.pow_pos (by decide))) _

/-- **Digits that do not start with a zero are those of their value.** -/
lemma decimalDigits_digitsValue (hdigits : ∀ c ∈ digits, c.isDigit = true) {d : Char}
    (hhead : digits.head? = some d) (hd : d ≠ '0') : decimalDigits (digitsValue digits) = digits := by
  induction digits using List.reverseRecOn with
  | nil => cases hhead
  | append_singleton digits c ih =>
      have hc := digitsValue_singleton (hdigits c (by simp))
      rw [digitsValue_concat]
      cases digits with
      | nil =>
          rw [digitsValue, List.foldl_nil, Nat.zero_mul, Nat.zero_add, decimalDigits,
            Nat.toDigits_of_lt_base hc.1, hc.2]
          rfl
      | cons d' digits =>
          have hinit : ∀ x ∈ d' :: digits, x.isDigit = true := fun x hx =>
            hdigits x (List.mem_append_left _ hx)
          have hhead : (d' :: digits).head? = some d := hhead
          rw [decimalDigits_concat (digitsValue_pos hinit hhead hd) hc.1, ih hinit hhead, hc.2]

/-- **A number lies between the powers of ten** that its digits are counted by. -/
lemma decimalDigits_bounds {n : Nat} (hn : 0 < n) :
    10 ^ ((decimalDigits n).length - 1) ≤ n ∧ n < 10 ^ (decimalDigits n).length := by
  have hlength : 0 < (decimalDigits n).length := Nat.length_toDigits_pos
  refine ⟨?_, (Nat.length_toDigits_le_iff (by decide) hlength).mp (Nat.le_refl _)⟩
  rcases Nat.eq_zero_or_pos ((decimalDigits n).length - 1) with hzero | hpos
  · rw [hzero]
    exact hn
  · by_contra hlt
    have hle : (decimalDigits n).length ≤ (decimalDigits n).length - 1 :=
      (Nat.length_toDigits_le_iff (by decide) hpos).mpr (Nat.lt_of_not_le hlt)
    omega

/-- **A power of ten adds zeros.** -/
lemma decimalDigits_mul_pow {n : Nat} (hn : 0 < n) (k : Nat) :
    decimalDigits (n * 10 ^ k) = decimalDigits n ++ List.replicate k '0' := by
  induction k with
  | zero => simp
  | succ k ih =>
      have hpos : 0 < n * 10 ^ k := Nat.mul_pos hn (Nat.pow_pos (by decide))
      have hstep := decimalDigits_concat hpos (d := 0) (by decide)
      rw [Nat.add_zero, ih, Nat.mul_assoc, ← pow_succ] at hstep
      rw [hstep, List.replicate_succ', List.append_assoc]
      rfl

/-- **What is divisible by ten ends in a zero.** -/
lemma ten_dvd_digitsValue_iff (hdigits : ∀ c ∈ digits, c.isDigit = true) (hne : digits ≠ []) :
    10 ∣ digitsValue digits ↔ digits.getLast? = some '0' := by
  obtain ⟨init, c, rfl⟩ : ∃ init c, digits = init ++ [c] :=
    ⟨_, _, (List.dropLast_concat_getLast hne).symm⟩
  have hc := hdigits c (by simp)
  rw [digitsValue_concat, List.getLast?_concat, Option.some.injEq, ← digitsValue_singleton_eq_zero hc]
  have hlt := (digitsValue_singleton hc).1
  omega

end DirectorySearch
