import DirectorySearch.Proofs.Decimal.Shortest

/-!
# The form in which numbers are written

A double is written as the digits of its shortest decimal, laid out by a fixed rule.  This file reads the
rule backwards: of the many ways to write a decimal, it says which one the writer takes.

* `NumberText.magnitude` — the decimal that a number names, without its sign.
* `NumberText.IsStandard` — the form that the writer gives to decimals, as a property of the characters.
* `NumberText.ofDecimal` — the number with given digits in that form; `isStandard_ofDecimal`,
  `magnitude_ofDecimal` — it has the form, and the value.
* **`NumberText.eq_ofDecimal`** — there is no other one.
* **`scientific_eq_characters_iff`** — the text of a double is the number in that form that has the sign of
  the double and its shortest decimal.

Two numbers with the same characters are the same, since a number is read back from its characters; so the
comparison of texts becomes one of numbers.
-/

namespace DirectorySearch

/-! ## The decimal of a number -/

/-- The power of ten that an exponent names. -/
def ExponentText.value (e : ExponentText) : ℤ :=
  if e.sign = some '-' then -(digitsValue e.digits : ℤ) else digitsValue e.digits

/-- The exponent that is written for a power of ten. -/
def ExponentText.ofPower (n : ℤ) : ExponentText :=
  ⟨'e', some (if 0 ≤ n then '+' else '-'), decimalDigits n.natAbs⟩

namespace NumberText

/-- The power of ten that is written behind a number. -/
def power (t : NumberText) : ℤ := (t.exponent.map ExponentText.value).getD 0

/-- The decimal that is written, without its sign. -/
def magnitude (t : NumberText) : ℚ :=
  digitsValue (t.whole ++ t.fraction) * 10 ^ (t.power - t.fraction.length)

/-- **The form in which decimals are written**: with a point and no exponent from `10 ^ -5` up to below
`10 ^ 16`, with an exponent elsewhere, and no more zeros than that takes. -/
structure IsStandard (t : NumberText) : Prop where
  /-- Only numbers of that range, and zero, are written without exponent. -/
  layout : t.exponent = none
    ↔ t.magnitude = 0 ∨ (10 : ℚ) ^ (-5 : ℤ) ≤ t.magnitude ∧ t.magnitude < 10 ^ (16 : ℤ)
  /-- Without an exponent there is a point. -/
  point : t.exponent = none → t.fraction ≠ []
  /-- The last digit behind the point is a zero only if it is the only one. -/
  last : t.fraction.getLast? = some '0' → t.exponent = none ∧ t.fraction = ['0']
  /-- In front of an exponent there is one digit before the point, and it is not zero. -/
  mantissa : t.exponent ≠ none → ∃ d, t.whole = [d] ∧ d ≠ '0'
  /-- An exponent has the letter `e`, a sign, and no zero in front of other digits. -/
  exponent : ∀ e ∈ t.exponent, e.letter = 'e' ∧ e.sign ≠ none ∧ e.digits.head? ≠ some '0'

/-- The number with the digits of `c · 10 ^ k`, in the form in which decimals are written. -/
def ofDecimal (negative : Bool) (c : ℕ) (k : ℤ) : NumberText :=
  let digits := decimalDigits c
  let point := digits.length + k
  if -5 < point ∧ point ≤ 16 then
    if 0 ≤ k then ⟨negative, digits ++ List.replicate k.toNat '0', ['0'], none⟩
    else if 0 < point then ⟨negative, digits.take point.toNat, digits.drop point.toNat, none⟩
    else ⟨negative, ['0'], List.replicate (-point).toNat '0' ++ digits, none⟩
  else
    ⟨negative, digits.take 1, digits.drop 1, some (.ofPower (point - 1))⟩

end NumberText

/-- The digits of a positive decimal place it between powers of ten. -/
lemma decimal_bounds {c : ℕ} (hc : 0 < c) (k : ℤ) :
    (10 : ℚ) ^ ((decimalDigits c).length + k - 1) ≤ c * 10 ^ k
      ∧ (c : ℚ) * 10 ^ k < 10 ^ ((decimalDigits c).length + k) := by
  obtain ⟨hlow, hhigh⟩ := decimalDigits_bounds hc
  have hlength : 0 < (decimalDigits c).length := Nat.length_toDigits_pos
  have hcast : ((decimalDigits c).length : ℤ) + k - 1 = ((decimalDigits c).length - 1 : ℕ) + k := by
    omega
  rw [hcast, zpow_add₀ (by norm_num), zpow_add₀ (by norm_num), zpow_natCast, zpow_natCast]
  constructor
  · gcongr
    exact_mod_cast hlow
  · gcongr
    exact_mod_cast hhigh

/-- Where the point of a positive decimal is, is told by its magnitude. -/
lemma point_iff {c : ℕ} (hc : 0 < c) (k : ℤ) :
    (-5 < (decimalDigits c).length + k ∧ (decimalDigits c).length + k ≤ 16)
      ↔ (10 : ℚ) ^ (-5 : ℤ) ≤ c * 10 ^ k ∧ (c : ℚ) * 10 ^ k < 10 ^ (16 : ℤ) := by
  obtain ⟨hlow, hhigh⟩ := decimal_bounds hc k
  have hone : (1 : ℚ) < 10 := by norm_num
  constructor
  · rintro ⟨hleft, hright⟩
    exact ⟨(zpow_le_zpow_right₀ hone.le (by omega)).trans hlow,
      hhigh.trans_le (zpow_le_zpow_right₀ hone.le hright)⟩
  · rintro ⟨hleft, hright⟩
    have hleft := (zpow_lt_zpow_iff_right₀ hone).mp (hleft.trans_lt hhigh)
    have hright := (zpow_lt_zpow_iff_right₀ hone).mp (hlow.trans_lt hright)
    omega

namespace NumberText

/-! ## Its characters -/

lemma characters_ofDecimal (negative : Bool) {c : ℕ} (hc : 0 < c) (k : ℤ) :
    (ofDecimal negative c k).characters
      = signed negative
        (if -5 < ((decimalDigits c).length + k : ℤ) ∧ ((decimalDigits c).length + k : ℤ) ≤ 16 then
          if 0 ≤ k then positional c k ++ ['.', '0'] else positional c k
        else exponential c k) := by
  obtain ⟨d, ds, hds, -⟩ := exists_decimalDigits_cons hc
  rw [ofDecimal]
  by_cases hrange : -5 < ((decimalDigits c).length + k : ℤ) ∧ ((decimalDigits c).length + k : ℤ) ≤ 16
  · rw [if_pos hrange, if_pos hrange]
    split_ifs with hk hpoint
    · simp [characters, positional, hk]
    · have hdrop : (decimalDigits c).drop ((decimalDigits c).length + k).toNat ≠ [] := by
        rw [Ne, List.drop_eq_nil_iff]
        omega
      simp [characters, positional, hk, hpoint, hdrop]
    · have hne : decimalDigits c ≠ [] := by simp [hds]
      simp [characters, positional, hk, hpoint, hne]
  · rw [if_neg hrange, if_neg hrange]
    simp only [characters, exponential, add_sub_right_comm, hds]
    cases ds <;> simp [ExponentText.ofPower, ExponentText.characters]

/-! ## Its value -/

@[simp] lemma negative_ofDecimal (negative : Bool) (c : ℕ) (k : ℤ) :
    (ofDecimal negative c k).negative = negative := by
  rw [ofDecimal]
  split_ifs <;> rfl

lemma value_ofPower (n : ℤ) : (ExponentText.ofPower n).value = n := by
  rw [ExponentText.value, ExponentText.ofPower, digitsValue_decimalDigits]
  by_cases hn : 0 ≤ n
  · simp [hn]
  · simp [hn, Int.ofNat_natAbs_of_nonpos (Int.le_of_not_le hn)]

/-- Zeros behind the digits of a number are made up for by its power of ten. -/
lemma magnitude_eq {t : NumberText} {c : ℕ} {k : ℤ} {j : ℕ}
    (hdigits : digitsValue (t.whole ++ t.fraction) = c * 10 ^ j)
    (hpower : t.power - t.fraction.length + j = k) : t.magnitude = c * 10 ^ k := by
  rw [magnitude, hdigits, ← hpower, zpow_add₀ (by norm_num) _ (j : ℤ), zpow_natCast]
  push_cast
  ring

/-- **The form in which decimals are written has their value.** -/
lemma magnitude_ofDecimal (negative : Bool) (c : ℕ) (k : ℤ) :
    (ofDecimal negative c k).magnitude = c * 10 ^ k := by
  have hlength : 0 < (decimalDigits c).length := Nat.length_toDigits_pos
  rw [ofDecimal]
  split_ifs with hrange hk hpoint
  · refine magnitude_eq (j := k.toNat + 1) ?_ ?_
    · rw [List.append_assoc, ← List.replicate_succ', digitsValue_append, digitsValue_zeros]
      simp
    · simp [power]
      omega
  · refine magnitude_eq (j := 0) ?_ ?_
    · rw [List.take_append_drop]
      simp
    · simp [power]
      omega
  · refine magnitude_eq (j := 0) ?_ ?_
    · show digitsValue (List.replicate (_ + 1) '0' ++ decimalDigits c) = _
      rw [digitsValue_append, digitsValue_zeros]
      simp
    · simp [power]
      omega
  · refine magnitude_eq (j := 0) ?_ ?_
    · rw [List.take_append_drop]
      simp
    · simp [power, value_ofPower]
      omega

/-! ## It is the only one -/

lemma isJson_ofDecimal (negative : Bool) {c : ℕ} (hc : 0 < c) (k : ℤ) :
    (ofDecimal negative c k).IsJson := by
  have hdigits : ∀ n, ∀ x ∈ decimalDigits n, x.isDigit = true := fun _ _ => isDigit_of_mem_decimalDigits
  have hzeros : ∀ n, ∀ x ∈ List.replicate n '0', x.isDigit = true := fun n x hx => by
    rw [List.eq_of_mem_replicate hx]
    rfl
  have htake : ∀ n, ∀ x ∈ (decimalDigits c).take n, x.isDigit = true := fun n x hx =>
    hdigits c x (List.mem_of_mem_take hx)
  have hdrop : ∀ n, ∀ x ∈ (decimalDigits c).drop n, x.isDigit = true := fun n x hx =>
    hdigits c x (List.mem_of_mem_drop hx)
  have happend : ∀ {xs ys : List Char}, (∀ x ∈ xs, x.isDigit = true) →
      (∀ x ∈ ys, x.isDigit = true) → ∀ x ∈ xs ++ ys, x.isDigit = true := fun hxs hys x hx =>
    (List.mem_append.mp hx).elim (hxs x) (hys x)
  obtain ⟨d, ds, hds, hd⟩ := exists_decimalDigits_cons hc
  rw [ofDecimal]
  split_ifs with hrange hk hpoint
  · exact ⟨Or.inr ⟨d, _, by rw [hds, List.cons_append], hd⟩, happend (hdigits c) (hzeros _), by simp,
      nofun⟩
  · obtain ⟨p, hp⟩ := Nat.exists_eq_add_one.mpr (Int.pos_iff_toNat_pos.mp hpoint)
    exact ⟨Or.inr ⟨d, _, by rw [hp, hds, List.take_succ_cons], hd⟩, htake _, hdrop _, nofun⟩
  · exact ⟨Or.inl rfl, by simp, happend (hzeros _) (hdigits c), nofun⟩
  · refine ⟨Or.inr ⟨d, _, by rw [hds, List.take_succ_cons], hd⟩, htake _, hdrop _, ?_⟩
    rintro e ⟨⟩
    refine ⟨Or.inl rfl, ?_, Nat.toDigits_ne_nil, hdigits _⟩
    rintro s ⟨⟩
    split
    · exact Or.inl rfl
    · exact Or.inr rfl

/-- **It is the form in which decimals are written.** -/
lemma isStandard_ofDecimal (negative : Bool) {c : ℕ} (hc : 0 < c) {k : ℤ} (hlast : ¬ 10 ∣ c) :
    (ofDecimal negative c k).IsStandard := by
  have hdigits : ∀ x ∈ decimalDigits c, x.isDigit = true := fun _ => isDigit_of_mem_decimalDigits
  have hzero : (decimalDigits c).getLast? ≠ some '0' := by
    rwa [Ne, ← ten_dvd_digitsValue_iff hdigits Nat.toDigits_ne_nil, digitsValue_decimalDigits]
  have hdrop : ∀ n, ((decimalDigits c).drop n).getLast? ≠ some '0' := fun n => by
    rw [List.getLast?_drop]
    split_ifs
    · exact nofun
    · exact hzero
  have hlayout : (ofDecimal negative c k).exponent = none ↔ (ofDecimal negative c k).magnitude = 0
      ∨ (10 : ℚ) ^ (-5 : ℤ) ≤ (ofDecimal negative c k).magnitude
        ∧ (ofDecimal negative c k).magnitude < 10 ^ (16 : ℤ) := by
    have hpos : (c : ℚ) * 10 ^ k ≠ 0 := by positivity
    rw [magnitude_ofDecimal, or_iff_right hpos, ← point_iff hc k, ofDecimal]
    split_ifs <;> simp_all
  obtain ⟨d, ds, hds, hd⟩ := exists_decimalDigits_cons hc
  rw [ofDecimal] at hlayout ⊢
  split_ifs at hlayout ⊢ with hrange hk hpoint
  · exact ⟨hlayout, by simp, fun _ => ⟨rfl, rfl⟩, fun h => absurd rfl h, nofun⟩
  · refine ⟨hlayout, fun _ => ?_, fun h => absurd h (hdrop _), fun h => absurd rfl h, nofun⟩
    rw [Ne, List.drop_eq_nil_iff]
    omega
  · refine ⟨hlayout, fun _ => by simp [hds], fun h => ?_, fun h => absurd rfl h, nofun⟩
    exact absurd ((List.getLast?_append_of_ne_nil _ Nat.toDigits_ne_nil).symm.trans h) hzero
  · refine ⟨by simpa using hlayout, nofun, fun h => absurd h (hdrop _),
      fun _ => ⟨d, by rw [hds, List.take_succ_cons, List.take_zero], hd⟩, ?_⟩
    rintro e ⟨⟩
    obtain ⟨d, ds, hds, hd⟩ := exists_decimalDigits_cons
      (n := ((decimalDigits c).length + k - 1).natAbs) (by omega)
    refine ⟨rfl, nofun, ?_⟩
    rw [ExponentText.ofPower, hds, List.head?_cons, Ne, Option.some.injEq]
    exact hd

/-- A decimal without zeros at its end is on the coarsest grid that it is on at all. -/
lemma exists_zeros {c c' : ℕ} {k k' : ℤ} (hc : ¬ 10 ∣ c) (h : (c' : ℚ) * 10 ^ k' = c * 10 ^ k) :
    ∃ j : ℕ, k = k' + j ∧ c' = c * 10 ^ j := by
  rcases le_or_gt k' k with hle | hgt
  · obtain ⟨j, rfl⟩ := Int.le.dest hle
    refine ⟨j, rfl, ?_⟩
    rw [add_comm, zpow_add₀ (by norm_num), ← mul_assoc, mul_left_inj' (by positivity)] at h
    exact_mod_cast h
  · obtain ⟨j, rfl⟩ := Int.lt.dest hgt
    rw [add_comm, zpow_add₀ (by norm_num), ← mul_assoc, mul_left_inj' (by positivity)] at h
    have hcast : c = c' * 10 ^ (j + 1) := by exact_mod_cast h.symm
    exact absurd (hcast ▸ Dvd.intro_left _ (by rw [pow_succ, mul_assoc])) hc

/-- Digits with zeros in front of the first other one. -/
lemma exists_leading_zeros {digits : List Char} {c : Char} (hlast : digits.getLast? = some c)
    (hc : c ≠ '0') : ∃ z d ds, digits = List.replicate z '0' ++ d :: ds ∧ d ≠ '0' := by
  induction digits with
  | nil => cases hlast
  | cons x digits ih =>
      by_cases hx : x = '0'
      · subst hx
        cases digits with
        | nil => exact absurd (Option.some.inj hlast).symm hc
        | cons y digits =>
            obtain ⟨z, d, ds, hds, hd⟩ := ih hlast
            exact ⟨z + 1, d, ds, by rw [hds, List.replicate_succ, List.cons_append], hd⟩
      · exact ⟨0, x, digits, rfl, hx⟩

section Unique

variable {negative : Bool} {whole fraction : List Char} {c : ℕ}

/-- A whole number is written with one zero behind the point. -/
lemma eq_ofDecimal_whole (hlead : whole = ['0'] ∨ ∃ d ds, whole = d :: ds ∧ d ≠ '0')
    (hwhole : ∀ x ∈ whole, x.isDigit = true) (hc : 0 < c) {i : ℕ}
    (hvalue : digitsValue whole = c * 10 ^ i)
    (hrange : -5 < ((decimalDigits c).length + i : ℤ) ∧ ((decimalDigits c).length + i : ℤ) ≤ 16) :
    ⟨negative, whole, ['0'], none⟩ = ofDecimal negative c i := by
  have hdigits : whole = decimalDigits c ++ List.replicate i '0' := by
    rcases hlead with rfl | ⟨d, ds, rfl, hd⟩
    · have hpos : 0 < c * 10 ^ i := by positivity
      exact absurd hvalue.symm hpos.ne'
    · rw [← decimalDigits_mul_pow hc, ← hvalue, decimalDigits_digitsValue hwhole rfl hd]
  simp only [ofDecimal, if_pos hrange, if_pos (Int.natCast_nonneg i), Int.toNat_natCast]
  rw [hdigits]

/-- Other numbers of the range are written with the digits behind the point that they have. -/
lemma eq_ofDecimal_fraction (hlead : whole = ['0'] ∨ ∃ d ds, whole = d :: ds ∧ d ≠ '0')
    (hdigits : ∀ x ∈ whole ++ fraction, x.isDigit = true) {l : Char}
    (hlast : fraction.getLast? = some l) (hl : l ≠ '0') (hvalue : digitsValue (whole ++ fraction) = c)
    (hrange : -5 < ((decimalDigits c).length - fraction.length : ℤ)
      ∧ ((decimalDigits c).length - fraction.length : ℤ) ≤ 16) :
    ⟨negative, whole, fraction, none⟩ = ofDecimal negative c (-fraction.length) := by
  have hlength : 0 < fraction.length := List.length_pos_of_mem (List.mem_of_getLast? hlast)
  have hneg : ¬ (0 : ℤ) ≤ -fraction.length := by omega
  simp only [ofDecimal, ← sub_eq_add_neg, if_pos hrange, if_neg hneg]
  rcases hlead with rfl | ⟨d, ds, rfl, hd⟩
  · obtain ⟨z, d, ds, rfl, hd⟩ := exists_leading_zeros hlast hl
    have hds : decimalDigits c = d :: ds := by
      have hzeros : ['0'] ++ (List.replicate z '0' ++ d :: ds)
          = List.replicate (z + 1) '0' ++ d :: ds := rfl
      rw [hzeros] at hdigits hvalue
      rw [← hvalue, digitsValue_append, digitsValue_zeros, zero_mul, zero_add]
      exact decimalDigits_digitsValue (fun x hx => hdigits x (List.mem_append_right _ hx)) rfl hd
    have hpoint : ((d :: ds).length - (List.replicate z '0' ++ d :: ds).length : ℤ) = -z := by
      simp
    rw [hds, hpoint, if_neg (by omega), neg_neg, Int.toNat_natCast]
  · have hds : decimalDigits c = d :: ds ++ fraction := by
      rw [← hvalue, decimalDigits_digitsValue hdigits rfl hd]
    have hpoint : ((d :: ds ++ fraction).length - fraction.length : ℤ) = (d :: ds).length := by
      rw [List.length_append, Nat.cast_add, add_sub_cancel_right]
    rw [hds, hpoint, if_pos (by simp), Int.toNat_natCast, List.take_left, List.drop_left]

/-- An exponent without a zero in front of other digits is the one that is written for its value. -/
lemma eq_ofPower {e : ExponentText} (he : e.IsJson) (hletter : e.letter = 'e') (hsign : e.sign ≠ none)
    (hhead : e.digits.head? ≠ some '0') : e = .ofPower e.value := by
  obtain ⟨letter, sign, digits⟩ := e
  obtain ⟨-, hsigns, hne, hdigits⟩ := he
  dsimp only at hletter hsign hhead hsigns hne hdigits
  obtain ⟨s, rfl⟩ := Option.ne_none_iff_exists'.mp hsign
  obtain ⟨d, ds, rfl⟩ := List.exists_cons_of_ne_nil hne
  have hd : d ≠ '0' := fun h => hhead (by rw [List.head?_cons, h])
  have hpos := digitsValue_pos hdigits rfl hd
  have hvalue := decimalDigits_digitsValue hdigits rfl hd
  rcases hsigns s rfl with rfl | rfl
  · simp [ExponentText.ofPower, ExponentText.value, hvalue, hletter]
  · simp [ExponentText.ofPower, ExponentText.value, hvalue, hletter, hpos.ne']

/-- Numbers out of the range are written with one digit before the point. -/
lemma eq_ofDecimal_exponent {d : Char} (hd : d ≠ '0')
    (hdigits : ∀ x ∈ d :: fraction, x.isDigit = true) (hvalue : digitsValue (d :: fraction) = c)
    {e : ExponentText} (he : e = .ofPower e.value)
    (hrange : ¬ (-5 < ((decimalDigits c).length + (e.value - fraction.length) : ℤ)
      ∧ ((decimalDigits c).length + (e.value - fraction.length) : ℤ) ≤ 16)) :
    ⟨negative, [d], fraction, some e⟩ = ofDecimal negative c (e.value - fraction.length) := by
  have hds : decimalDigits c = d :: fraction := by
    rw [← hvalue, decimalDigits_digitsValue hdigits rfl hd]
  have hpoint : ((d :: fraction).length + (e.value - fraction.length) - 1 : ℤ) = e.value := by
    simp
    omega
  simp only [ofDecimal, if_neg hrange]
  rw [hds, hpoint, ← he]
  rfl

end Unique

/-- **A number in the form in which decimals are written is the one that is written for its value.** -/
lemma eq_ofDecimal {t : NumberText} (ht : t.IsJson) (hstandard : t.IsStandard) {c : ℕ} {k : ℤ}
    (hc : 0 < c) (hlast : ¬ 10 ∣ c) (h : t.magnitude = c * 10 ^ k) :
    t = ofDecimal t.negative c k := by
  obtain ⟨negative, whole, fraction, exponent⟩ := t
  obtain ⟨hlead, hwhole, hfraction, hexponent⟩ := ht
  obtain ⟨hlayout, hpoint, hzero, hmantissa, hpower⟩ := hstandard
  obtain ⟨j, hk, hdigits⟩ := exists_zeros hlast h
  have hpos : (c : ℚ) * 10 ^ k ≠ 0 := by positivity
  rw [h, or_iff_right hpos, ← point_iff hc k] at hlayout
  dsimp only at *
  have hall : ∀ x ∈ whole ++ fraction, x.isDigit = true := fun x hx =>
    (List.mem_append.mp hx).elim (hwhole x) (hfraction x)
  -- no zero behind the other digits, so they are those of `c`
  have hexact : (whole ++ fraction).getLast? ≠ some '0' → j = 0 := fun hne => by
    by_contra hj
    obtain ⟨i, rfl⟩ := Nat.exists_eq_succ_of_ne_zero hj
    refine hne ((ten_dvd_digitsValue_iff hall ?_).mp ?_)
    · rcases hlead with rfl | ⟨d, ds, rfl, -⟩ <;> simp
    · rw [hdigits, pow_succ, ← mul_assoc]
      exact Nat.dvd_mul_left 10 _
  cases exponent with
  | none =>
      have hrange := hlayout.mp rfl
      obtain ⟨l, hl⟩ : ∃ l, fraction.getLast? = some l :=
        ⟨_, List.getLast?_eq_some_getLast (hpoint rfl)⟩
      by_cases hlzero : l = '0'
      · subst hlzero
        obtain rfl := (hzero hl).2
        rw [digitsValue_concat, (digitsValue_singleton_eq_zero rfl).mpr rfl, add_zero] at hdigits
        obtain ⟨i, rfl⟩ : ∃ i, j = i + 1 := by
          refine Nat.exists_eq_succ_of_ne_zero fun hj => hlast ?_
          rw [hj, pow_zero, mul_one] at hdigits
          exact hdigits ▸ Nat.dvd_mul_left 10 _
        rw [pow_succ, ← mul_assoc, mul_left_inj' (by decide)] at hdigits
        obtain rfl : k = i := by simpa [power] using hk
        exact eq_ofDecimal_whole hlead hwhole hc hdigits hrange
      · obtain rfl := hexact (by simp [hl, hlzero])
        obtain rfl : k = -fraction.length := by simpa [power] using hk
        exact eq_ofDecimal_fraction hlead hall hl hlzero (by simpa using hdigits) hrange
  | some e =>
      obtain ⟨d, rfl, hd⟩ := hmantissa nofun
      obtain ⟨hletter, hsign, hhead⟩ := hpower e rfl
      obtain rfl := hexact fun h => by
        rcases List.eq_nil_or_concat fraction with rfl | ⟨init, l, rfl⟩
        · exact hd (by simpa using h)
        · rw [List.concat_eq_append, ← List.append_assoc, List.getLast?_concat] at h
          exact nomatch (hzero (by simpa using h)).1
      obtain rfl : k = e.value - fraction.length := by simpa [power] using hk
      exact eq_ofDecimal_exponent hd hall (by simpa using hdigits)
        (eq_ofPower (hexponent e rfl) hletter hsign hhead) fun h => nomatch hlayout.mpr h

/-! ## Zero -/

/-- The zero that is written: one on either side of the point. -/
def zero (negative : Bool) : NumberText := ⟨negative, ['0'], ['0'], none⟩

lemma isJson_zero (negative : Bool) : (zero negative).IsJson where
  leading := Or.inl rfl
  whole_digits := by simp [zero]
  fraction_digits := by simp [zero]
  exponent := nofun

lemma magnitude_zero (negative : Bool) : (zero negative).magnitude = 0 := by
  have hdigits : digitsValue ((zero negative).whole ++ (zero negative).fraction) = 0 := rfl
  rw [magnitude, hdigits, Nat.cast_zero, zero_mul]

lemma isStandard_zero (negative : Bool) : (zero negative).IsStandard where
  layout := iff_of_true rfl (Or.inl (magnitude_zero negative))
  point _ := List.cons_ne_nil _ _
  last _ := ⟨rfl, rfl⟩
  mantissa h := absurd rfl h
  exponent := nofun

lemma eq_zero {t : NumberText} (ht : t.IsJson) (hstandard : t.IsStandard) (h : t.magnitude = 0) :
    t = zero t.negative := by
  obtain ⟨negative, whole, fraction, exponent⟩ := t
  obtain ⟨hlead, hwhole, hfraction, -⟩ := ht
  obtain ⟨hlayout, hpoint, hzero, -, -⟩ := hstandard
  dsimp only at *
  obtain rfl := hlayout.mpr (Or.inl h)
  have hvalue : digitsValue (whole ++ fraction) = 0 := by
    rw [magnitude, mul_eq_zero_iff_right (by positivity)] at h
    exact_mod_cast h
  rcases hlead with rfl | ⟨d, ds, rfl, hd⟩
  · rw [digitsValue_append] at hvalue
    have hlast := (ten_dvd_digitsValue_iff hfraction (hpoint rfl)).mp
      ((Nat.add_eq_zero_iff.mp hvalue).2 ▸ dvd_zero 10)
    rw [(hzero hlast).2, zero]
  · have hpos := digitsValue_pos (fun x hx => (List.mem_append.mp hx).elim (hwhole x) (hfraction x))
      (rfl : (d :: ds ++ fraction).head? = some d) hd
    exact absurd hvalue hpos.ne'

lemma characters_injective {t t' : NumberText} (ht : t.IsJson) (ht' : t'.IsJson)
    (h : t.characters = t'.characters) : t = t' := by
  have hread : Written.readNumber? (t.characters ++ []) = some (t, []) :=
    readNumber?_characters ht nofun
  have hread' : Written.readNumber? (t'.characters ++ []) = some (t', []) :=
    readNumber?_characters ht' nofun
  rw [h, hread'] at hread
  exact (Prod.mk.inj (Option.some.inj hread)).1.symm

/-! ## What is written for a double -/

/-- Whether a number has the sign of a double and the shortest of the decimals that round to it. -/
def IsDecimalOf (t : NumberText) (x : Binary64) : Prop :=
  ∃ m e, x.number = .finite t.negative m e ∧
    (m = 0 ∧ t.magnitude = 0
      ∨ 0 < m ∧ ∃ c k, (Interval.ofNumber .double m e).IsShortest c k ∧ t.magnitude = c * 10 ^ k)

end NumberText

/-- The significand of a double. -/
lemma significand_lt {x : Binary64} {s : Bool} {m : ℕ} {e : ℤ} (h : x.number = .finite s m e) :
    m < 2 ^ 53 := by
  have hbits : Nat.pow 2 BinaryFormat.double.fractionBits = 2 ^ 52 := rfl
  have hfraction := Nat.mod_lt x.bits.toNat (hbits ▸ (by decide : 0 < 2 ^ 52))
  simp only [Binary64.number, BinaryFormat.decode] at h
  split_ifs at h
  · cases h
    omega
  · cases h
    omega

/-- **The text of a double is a number of that form** with the shortest decimal. -/
lemma scientific_eq {x : Binary64} {s : Bool} {m : ℕ} {e : ℤ} (h : x.number = .finite s m e)
    (hm : 0 < m) : x.scientific = (NumberText.ofDecimal s (shortestDecimal .double .even m e).1
      (shortestDecimal .double .even m e).2).characters := by
  obtain ⟨m, rfl⟩ := Nat.exists_eq_add_one.mpr hm
  rw [Binary64.scientific, h, NumberText.characters_ofDecimal _ (shortestDecimal_pos .double .even e hm)]
  rfl

/-- **What is written for a double**: the number in standard form with its shortest decimal. -/
theorem scientific_eq_characters_iff {x : Binary64} {t : NumberText} (ht : t.IsJson) :
    x.scientific = t.characters ↔ t.IsStandard ∧ t.IsDecimalOf x := by
  have hno : (∀ s m e, x.number ≠ .finite s m e) →
      (x.scientific = t.characters ↔ t.IsStandard ∧ t.IsDecimalOf x) := fun hx => by
    obtain ⟨c, cs, hcs, hc⟩ := NumberText.exists_characters_cons ht.leading ht.whole_digits
    constructor
    · intro h
      rw [Binary64.scientific, hcs] at h
      split at h
      · next heq => exact absurd heq (hx _ _ _)
      · next heq => exact absurd heq (hx _ _ _)
      · rw [← (List.cons.inj h).1] at hc
        exact absurd hc (by decide)
    · rintro ⟨-, m, e, h, -⟩
      exact absurd h (hx _ _ _)
  cases hx : x.number with
  | nan => exact hno (by simp [hx])
  | infinite s => exact hno (by simp [hx])
  | finite s m e =>
      rcases Nat.eq_zero_or_pos m with rfl | hm
      · have htext : x.scientific = (NumberText.zero s).characters := by
          rw [Binary64.scientific, hx]
          rfl
        rw [htext]
        constructor
        · intro h
          obtain rfl := NumberText.characters_injective (NumberText.isJson_zero s) ht h
          exact ⟨NumberText.isStandard_zero s, 0, e, hx, Or.inl ⟨rfl, NumberText.magnitude_zero s⟩⟩
        · rintro ⟨hstandard, m', e', hx', hdecimal⟩
          cases hx.symm.trans hx'
          obtain ⟨-, hmagnitude⟩ := hdecimal.resolve_right fun h => absurd h.1 (lt_irrefl 0)
          rw [← NumberText.eq_zero ht hstandard hmagnitude]
      · have hshortest := isShortest_shortestDecimal e hm (significand_lt hx)
        have hc := shortestDecimal_pos .double .even e hm
        rw [scientific_eq hx hm]
        constructor
        · intro h
          obtain rfl := NumberText.characters_injective (NumberText.isJson_ofDecimal s hc _) ht h
          refine ⟨NumberText.isStandard_ofDecimal s hc hshortest.not_ten_dvd, m, e, by simp [hx],
            Or.inr ⟨hm, _, _, hshortest, NumberText.magnitude_ofDecimal ..⟩⟩
        · rintro ⟨hstandard, m', e', hx', hdecimal⟩
          cases hx.symm.trans hx'
          obtain ⟨-, c, k, hshortest', hmagnitude⟩ := hdecimal.resolve_left fun h => absurd h.1 hm.ne'
          obtain ⟨rfl, rfl⟩ := hshortest.unique hshortest'
          rw [← NumberText.eq_ofDecimal ht hstandard hc hshortest.not_ten_dvd hmagnitude]

end DirectorySearch
