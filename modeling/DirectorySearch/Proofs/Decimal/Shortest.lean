import DirectorySearch.Proofs.Decimal.Digits
import Mathlib.Algebra.Order.Field.Power
import Mathlib.Algebra.Order.Floor.Semifield
import Mathlib.Data.Rat.Floor
import Mathlib.Tactic.GCongr
import Mathlib.Tactic.Linarith
import Mathlib.Tactic.NormNum
import Mathlib.Tactic.Positivity

/-!
# What the shortest decimal is

The search for the shortest decimal goes down from grid to grid and looks at two points of each.  This file
says what it finds without the search: of all decimals that round to a number, one on the coarsest grid
possible, and there the one closest to the number.

* `Interval.Holds`, `Interval.distance` — the interval of a number and the way to its middle, over the
  rationals.
* `pick?_nearest`, `not_holds_of_pick?` — the two points are enough: the interval has no gaps.
* `topExponent_bounds`, `exists_holds` — the search begins above the interval and ends where the grid is
  finer than the interval is wide.
* **`Interval.IsShortest`** — the specification, which no two decimals meet (`IsShortest.unique`).
* **`isShortest_shortestDecimal`** — the search meets it for every double.

Among points that are equally close the even one is taken; there are never two of these, because between
them lies an odd one that is closer.
-/

namespace DirectorySearch

/-! ## Powers of ten -/

lemma zpow_ten (k : ℤ) : (10 : ℚ) ^ k = 10 ^ k.toNat / 10 ^ (-k).toNat := by
  obtain ⟨n, rfl | rfl⟩ := k.eq_nat_or_neg
  · simp
  · simp

namespace Interval

/-- Whether a number lies in the interval. -/
def Holds (i : Interval) (r : ℚ) : Prop :=
  ((i.low : ℚ) < r * i.den ∨ i.closed = true ∧ (i.low : ℚ) = r * i.den)
    ∧ (r * i.den < i.high ∨ i.closed = true ∧ r * i.den = i.high)

variable {i : Interval} {k : ℤ}

lemma contains_iff {c : ℕ} :
    i.contains (10 ^ (-k).toNat) (i.den * 10 ^ k.toNat) c = true ↔ i.Holds (c * 10 ^ k) := by
  have hscale : (0 : ℚ) < 10 ^ (-k).toNat := by positivity
  have hpoint : (c : ℚ) * 10 ^ k * i.den = c * (i.den * 10 ^ k.toNat) / 10 ^ (-k).toNat := by
    rw [zpow_ten]
    ring
  rw [Holds, hpoint, lt_div_iff₀ hscale, eq_div_iff hscale.ne', div_lt_iff₀ hscale,
    div_eq_iff hscale.ne']
  simp only [contains, Bool.and_eq_true, Bool.or_eq_true, decide_eq_true_eq]
  norm_cast

/-- The interval has no gaps. -/
lemma Holds.convex {a b r : ℚ} (ha : i.Holds a) (hb : i.Holds b) (har : a ≤ r) (hrb : r ≤ b) :
    i.Holds r := by
  have hden : (0 : ℚ) ≤ i.den := Nat.cast_nonneg _
  have hlow := mul_le_mul_of_nonneg_right har hden
  have hhigh := mul_le_mul_of_nonneg_right hrb hden
  constructor
  · rcases ha.1 with h | ⟨hclosed, h⟩
    · exact Or.inl (h.trans_le hlow)
    · rcases hlow.eq_or_lt with heq | hlt
      · exact Or.inr ⟨hclosed, h.trans heq⟩
      · exact Or.inl (h.trans_lt hlt)
  · rcases hb.2 with h | ⟨hclosed, h⟩
    · exact Or.inl (hhigh.trans_lt h)
    · rcases hhigh.eq_or_lt with heq | hlt
      · exact Or.inr ⟨hclosed, heq.trans h⟩
      · exact Or.inl (hlt.trans_eq h)

/-- An interval around a positive number. -/
structure IsAround (i : Interval) : Prop where
  den_pos : 0 < i.den
  low_pos : 0 < i.low
  low_lt : i.low < i.middle
  lt_high : i.middle < i.high

/-! ## One grid -/

/-- The middle of an interval. -/
def center (i : Interval) : ℚ := i.middle / i.den

lemma IsAround.holds (h : i.IsAround) : i.Holds i.center := by
  have hden : (i.den : ℚ) ≠ 0 := by exact_mod_cast h.den_pos.ne'
  rw [Holds, center, div_mul_cancel₀ _ hden]
  exact ⟨Or.inl (by exact_mod_cast h.low_lt), Or.inl (by exact_mod_cast h.lt_high)⟩

/-- The point of a grid below the middle of an interval. -/
def below (i : Interval) (k : ℤ) : ℕ := i.middle * 10 ^ (-k).toNat / (i.den * 10 ^ k.toNat)

/-- How far the middle is from a point of a grid, in parts of the common denominator. -/
lemma center_sub (hden : 0 < i.den) (k : ℤ) (c : ℕ) :
    (i.center - c * 10 ^ k) * (i.den * 10 ^ (-k).toNat)
      = i.middle * 10 ^ (-k).toNat - c * (i.den * 10 ^ k.toNat) := by
  have hden : (i.den : ℚ) ≠ 0 := by exact_mod_cast hden.ne'
  rw [center, zpow_ten]
  field_simp

lemma below_le (hden : 0 < i.den) (k : ℤ) : (i.below k : ℚ) * 10 ^ k ≤ i.center := by
  have hparts : (0 : ℚ) < i.den * 10 ^ (-k).toNat := by positivity
  rw [← sub_nonneg, ← mul_nonneg_iff_of_pos_right hparts, center_sub hden, sub_nonneg]
  exact_mod_cast Nat.div_mul_le_self _ _

lemma lt_above (hden : 0 < i.den) (k : ℤ) : i.center < (i.below k + 1 : ℕ) * 10 ^ k := by
  have hparts : (0 : ℚ) < i.den * 10 ^ (-k).toNat := by positivity
  by_contra hle
  have hnonneg := mul_nonneg (sub_nonneg.mpr (not_lt.mp hle)) hparts.le
  rw [center_sub hden, sub_nonneg] at hnonneg
  have hlt : i.middle * 10 ^ (-k).toNat < (i.below k + 1) * (i.den * 10 ^ k.toNat) :=
    Nat.lt_mul_of_div_lt (Nat.lt_succ_self _) (by positivity)
  exact absurd hlt (Nat.not_lt.mpr (by exact_mod_cast hnonneg))

/-- How far a number is from the middle of an interval. -/
def distance (i : Interval) (r : ℚ) : ℚ := |r - i.center|

lemma distance_below (hden : 0 < i.den) (k : ℤ) :
    i.distance (i.below k * 10 ^ k) = i.center - i.below k * 10 ^ k := by
  rw [distance, abs_sub_comm, abs_of_nonneg (sub_nonneg.mpr (below_le hden k))]

lemma distance_above (hden : 0 < i.den) (k : ℤ) :
    i.distance ((i.below k + 1 : ℕ) * 10 ^ k) = (i.below k + 1 : ℕ) * 10 ^ k - i.center := by
  rw [distance, abs_of_nonneg (sub_nonneg.mpr (lt_above hden k).le)]

/-- The search compares the two distances over the common denominator. -/
lemma distance_parts (hden : 0 < i.den) (k : ℤ) :
    ((i.middle * 10 ^ (-k).toNat - i.below k * (i.den * 10 ^ k.toNat) : ℕ) : ℚ)
        = i.distance (i.below k * 10 ^ k) * (i.den * 10 ^ (-k).toNat)
      ∧ (((i.below k + 1) * (i.den * 10 ^ k.toNat) - i.middle * 10 ^ (-k).toNat : ℕ) : ℚ)
        = i.distance ((i.below k + 1 : ℕ) * 10 ^ k) * (i.den * 10 ^ (-k).toNat) := by
  have hle : i.below k * (i.den * 10 ^ k.toNat) ≤ i.middle * 10 ^ (-k).toNat :=
    Nat.div_mul_le_self _ _
  have hge : i.middle * 10 ^ (-k).toNat ≤ (i.below k + 1) * (i.den * 10 ^ k.toNat) :=
    (Nat.lt_mul_of_div_lt (Nat.lt_succ_self _) (by positivity)).le
  rw [distance_below hden, distance_above hden, ← neg_sub i.center, neg_mul, center_sub hden,
    center_sub hden, neg_sub, Nat.cast_sub hle, Nat.cast_sub hge]
  push_cast
  exact ⟨rfl, rfl⟩

/-- The hit of a grid is one of the two points around the middle, and no further away than the other if
that is in the interval too; of two that are equally far it is the even one. -/
lemma pick?_cases {tie : Tie} {c : ℕ} (hden : 0 < i.den) (h : i.pick? tie k = some c) :
    (c = i.below k ∨ c = i.below k + 1) ∧ i.Holds (c * 10 ^ k) ∧
      ∀ c', c' = i.below k ∨ c' = i.below k + 1 → i.Holds (c' * 10 ^ k) →
        i.distance (c * 10 ^ k) ≤ i.distance (c' * 10 ^ k)
          ∧ (tie = .even → c' ≠ c → i.distance (c * 10 ^ k) = i.distance (c' * 10 ^ k) → Even c) := by
  have hparts : (0 : ℚ) < i.den * 10 ^ (-k).toNat := by positivity
  obtain ⟨hlow, hhigh⟩ := distance_parts hden k
  have hlt := mul_lt_mul_iff_left₀ (b := i.distance (i.below k * 10 ^ k))
    (c := i.distance ((i.below k + 1 : ℕ) * 10 ^ k)) hparts
  have hgt := mul_lt_mul_iff_left₀ (b := i.distance ((i.below k + 1 : ℕ) * 10 ^ k))
    (c := i.distance (i.below k * 10 ^ k)) hparts
  rw [← hlow, ← hhigh, Nat.cast_lt] at hlt hgt
  simp only [← contains_iff]
  simp only [pick?, Nat.pow_eq, ← below.eq_1, hlt, hgt] at h
  split at h
  · next hbelow habove =>
    by_cases hless : i.distance (i.below k * 10 ^ k) < i.distance ((i.below k + 1 : ℕ) * 10 ^ k)
    · rw [if_pos hless] at h
      obtain rfl := Option.some.inj h
      refine ⟨Or.inl rfl, hbelow, ?_⟩
      rintro c' (rfl | rfl) -
      · exact ⟨le_rfl, fun _ hne => absurd rfl hne⟩
      · exact ⟨hless.le, fun _ _ heq => absurd heq hless.ne⟩
    rw [if_neg hless] at h
    by_cases hmore : i.distance ((i.below k + 1 : ℕ) * 10 ^ k) < i.distance (i.below k * 10 ^ k)
    · rw [if_pos hmore] at h
      obtain rfl := Option.some.inj h
      refine ⟨Or.inr rfl, habove, ?_⟩
      rintro c' (rfl | rfl) -
      · exact ⟨hmore.le, fun _ _ heq => absurd heq hmore.ne⟩
      · exact ⟨le_rfl, fun _ hne => absurd rfl hne⟩
    rw [if_neg hmore] at h
    have heq := le_antisymm (not_lt.mp hmore) (not_lt.mp hless)
    obtain ⟨hc, heven⟩ : (c = i.below k ∨ c = i.below k + 1) ∧ (tie = .even → Even c) := by
      cases tie with
      | up => exact ⟨Or.inr (Option.some.inj h).symm, fun htie => absurd htie (by decide)⟩
      | even =>
          have h : (if i.below k % 2 = 0 then i.below k else i.below k + 1) = c := Option.some.inj h
          rw [Nat.even_iff]
          split_ifs at h <;> omega
    refine ⟨hc, by rcases hc with rfl | rfl <;> assumption, fun c' hc' _ =>
      ⟨le_of_eq ?_, fun h _ _ => heven h⟩⟩
    rcases hc with rfl | rfl <;> rcases hc' with rfl | rfl <;> simp [heq]
  · next hbelow habove =>
    obtain rfl := Option.some.inj h
    refine ⟨Or.inl rfl, hbelow, ?_⟩
    rintro c' (rfl | rfl) hc'
    · exact ⟨le_rfl, fun _ hne => absurd rfl hne⟩
    · simp [habove] at hc'
  · next hbelow habove =>
    obtain rfl := Option.some.inj h
    refine ⟨Or.inr rfl, habove, ?_⟩
    rintro c' (rfl | rfl) hc'
    · simp [hbelow] at hc'
    · exact ⟨le_rfl, fun _ hne => absurd rfl hne⟩
  · cases h

/-- **The hit of a grid is its closest point** of those in the interval, the even one of two. -/
lemma pick?_nearest {tie : Tie} (hi : i.IsAround) {c c' : ℕ} (h : i.pick? tie k = some c)
    (hc' : i.Holds (c' * 10 ^ k)) :
    i.distance (c * 10 ^ k) ≤ i.distance (c' * 10 ^ k)
      ∧ (tie = .even → c' ≠ c → i.distance (c * 10 ^ k) = i.distance (c' * 10 ^ k) → Even c) := by
  obtain ⟨-, -, hpick⟩ := pick?_cases hi.den_pos h
  have hten : (0 : ℚ) < 10 ^ k := by positivity
  have hbelow := below_le hi.den_pos k
  have habove := lt_above hi.den_pos k
  rcases Nat.lt_trichotomy c' (i.below k) with hlt | rfl | hgt
  · -- the point below the middle is in the interval too, and closer
    have hstep : (c' : ℚ) * 10 ^ k < i.below k * 10 ^ k := by gcongr
    have hcloser : i.distance (i.below k * 10 ^ k) < i.distance (c' * 10 ^ k) := by
      rw [distance_below hi.den_pos, distance, abs_sub_comm, abs_of_nonneg (by linarith)]
      linarith
    have hle := (hpick _ (Or.inl rfl) (hc'.convex hi.holds hstep.le hbelow)).1
    exact ⟨(hle.trans_lt hcloser).le, fun _ _ heq => absurd heq (hle.trans_lt hcloser).ne⟩
  · exact hpick _ (Or.inl rfl) hc'
  · rcases (Nat.succ_le_of_lt hgt).eq_or_lt with rfl | hgt
    · exact hpick _ (Or.inr rfl) hc'
    · have hstep : ((i.below k + 1 : ℕ) : ℚ) * 10 ^ k < c' * 10 ^ k := by gcongr
      have hcloser : i.distance ((i.below k + 1 : ℕ) * 10 ^ k) < i.distance (c' * 10 ^ k) := by
        rw [distance_above hi.den_pos, distance, abs_of_nonneg (by linarith)]
        linarith
      have hle := (hpick _ (Or.inr rfl) (hi.holds.convex hc' habove.le hstep.le)).1
      exact ⟨(hle.trans_lt hcloser).le, fun _ _ heq => absurd heq (hle.trans_lt hcloser).ne⟩

/-- **If a grid has no hit, none of its points is in the interval.** -/
lemma not_holds_of_pick? {tie : Tie} (hi : i.IsAround) (h : i.pick? tie k = none) (c : ℕ) :
    ¬ i.Holds (c * 10 ^ k) := by
  intro hc
  have hnone : ¬ i.Holds (i.below k * 10 ^ k) ∧ ¬ i.Holds ((i.below k + 1 : ℕ) * 10 ^ k) := by
    rw [← contains_iff, ← contains_iff]
    simp only [pick?, Nat.pow_eq, ← below.eq_1] at h
    split at h
    · cases tie <;> dsimp only at h <;> split_ifs at h
    · cases h
    · cases h
    · next hbelow habove => exact ⟨by simp [hbelow], by simp [habove]⟩
  rcases Nat.lt_or_ge (i.below k) c with hlt | hge
  · refine hnone.2 (hi.holds.convex hc (lt_above hi.den_pos k).le ?_)
    gcongr
    exact hlt
  · refine hnone.1 (hc.convex hi.holds ?_ (below_le hi.den_pos k))
    gcongr

/-! ## The first grid with a hit -/

/-- Somewhere among the grids there is a hit: the search stops at the first. -/
lemma search_spec {tie : Tie} {n : ℕ} {j : ℤ} (hj : j ≤ k) (hn : k < j + n)
    (hhit : (i.pick? tie j).isSome) :
    i.pick? tie (i.search tie n k).2 = some (i.search tie n k).1
      ∧ ∀ k', (i.search tie n k).2 < k' → k' ≤ k → i.pick? tie k' = none := by
  induction n generalizing k with
  | zero => omega
  | succ n ih =>
      rw [search]
      cases hpick : i.pick? tie k with
      | some c => exact ⟨hpick, fun k' hlt hle => absurd hlt (by dsimp only; omega)⟩
      | none =>
          have hne : j ≠ k := by
            rintro rfl
            simp [hpick] at hhit
          obtain ⟨hsome, hnone⟩ := ih (k := k - 1) (by omega) (by omega)
          refine ⟨hsome, fun k' hlt hle => ?_⟩
          rcases hle.eq_or_lt with rfl | hlt'
          · exact hpick
          · exact hnone k' hlt (by omega)

/-- A grid that is finer than the interval is wide has a hit. -/
lemma exists_holds {u : ℚ} (hu : 0 < u) (hden : 0 < i.den) (hwidth : u * i.den < i.high - i.low) :
    ∃ c : ℕ, i.Holds (c * u) := by
  have hden : (0 : ℚ) < i.den := by exact_mod_cast hden
  have hstep : 0 < u * i.den := by positivity
  refine ⟨⌊(i.low : ℚ) / (u * i.den)⌋₊ + 1, Or.inl ?_, Or.inl ?_⟩
  · have hlt := Nat.lt_floor_add_one ((i.low : ℚ) / (u * i.den))
    rw [div_lt_iff₀ hstep] at hlt
    push_cast
    linarith
  · have hle := Nat.floor_le (a := (i.low : ℚ) / (u * i.den)) (by positivity)
    rw [le_div_iff₀ hstep] at hle
    push_cast
    linarith

/-! ## Where the search begins -/

/-- **The search begins at the magnitude of the upper end.** -/
lemma topExponent_bounds (hden : 0 < i.den) (hhigh : 0 < i.high) :
    (10 : ℚ) ^ (i.topExponent - 1) * i.den ≤ i.high
      ∧ (i.high : ℚ) ≤ 10 ^ i.topExponent * i.den := by
  have hcount : ∀ n, ∃ d, digitCount n = d + 1 := fun n =>
    Nat.exists_eq_add_one.mpr Nat.length_toDigits_pos
  by_cases hwhole : i.high / i.den = 0
  · have hquotient : 0 < i.den / i.high :=
      Nat.div_pos ((Nat.div_eq_zero_iff_lt hden).mp hwhole).le hhigh
    obtain ⟨d, hd⟩ := hcount (i.den / i.high)
    obtain ⟨hlow, hlt⟩ := decimalDigits_bounds hquotient
    have htop : i.topExponent = -(d : ℤ) := by
      rw [topExponent, if_pos hwhole, hd]
      push_cast
      ring
    have hlow : 10 ^ d * i.high ≤ i.den := by
      rw [← Nat.le_div_iff_mul_le hhigh]
      convert hlow using 2
      exact (Nat.eq_sub_of_add_eq hd.symm)
    have hlt : i.den < 10 ^ (d + 1) * i.high := by
      rw [← Nat.div_lt_iff_lt_mul hhigh, ← hd]
      exact hlt
    rw [htop, show -(d : ℤ) - 1 = -((d + 1 : ℕ) : ℤ) by push_cast; ring, zpow_neg, zpow_neg,
      zpow_natCast, zpow_natCast, inv_mul_le_iff₀ (by positivity), le_inv_mul_iff₀ (by positivity)]
    exact ⟨by exact_mod_cast hlt.le, by exact_mod_cast hlow⟩
  · obtain ⟨d, hd⟩ := hcount (i.high / i.den)
    obtain ⟨hlow, hlt⟩ := decimalDigits_bounds (Nat.pos_of_ne_zero hwhole)
    have htop : i.topExponent = ((d + 1 : ℕ) : ℤ) := by rw [topExponent, if_neg hwhole, hd]
    have hlow : 10 ^ d * i.den ≤ i.high := by
      rw [← Nat.le_div_iff_mul_le hden]
      convert hlow using 2
      exact (Nat.eq_sub_of_add_eq hd.symm)
    have hlt : i.high < 10 ^ (d + 1) * i.den := by
      rw [← Nat.div_lt_iff_lt_mul hden, ← hd]
      exact hlt
    rw [htop, show ((d + 1 : ℕ) : ℤ) - 1 = (d : ℤ) by push_cast; ring, zpow_natCast, zpow_natCast]
    exact ⟨by exact_mod_cast hlow, by exact_mod_cast hlt.le⟩

/-! ## The shortest decimal -/

/-- **The shortest decimal in an interval**: it is on the coarsest grid that has a point there, and of these
points it is the closest to the middle, the even one of two. -/
structure IsShortest (i : Interval) (c : ℕ) (k : ℤ) : Prop where
  holds : i.Holds (c * 10 ^ k)
  /-- No coarser grid has a point in the interval. -/
  coarsest : ∀ k' > k, ∀ c' : ℕ, ¬ i.Holds (c' * 10 ^ k')
  /-- No point of the grid that is in the interval is closer to the middle. -/
  nearest : ∀ c' : ℕ, i.Holds (c' * 10 ^ k) → i.distance (c * 10 ^ k) ≤ i.distance (c' * 10 ^ k)
  even : ∀ c' ≠ c, i.Holds (c' * 10 ^ k) → i.distance (c * 10 ^ k) = i.distance (c' * 10 ^ k) → Even c

namespace IsShortest

variable {c c' : ℕ} {k' : ℤ}

/-- A shortest decimal does not end in a zero. -/
lemma not_ten_dvd (h : i.IsShortest c k) : ¬ 10 ∣ c := by
  rintro ⟨c', rfl⟩
  refine h.coarsest (k + 1) (by omega) c' ?_
  convert h.holds using 1
  rw [zpow_add_one₀ (by norm_num)]
  push_cast
  ring

lemma exponent_eq (h : i.IsShortest c k) (h' : i.IsShortest c' k') : k = k' := by
  rcases lt_trichotomy k k' with hlt | heq | hgt
  · exact absurd h'.holds (h.coarsest k' hlt c')
  · exact heq
  · exact absurd h.holds (h'.coarsest k hgt c)

/-- Of two shortest decimals the smaller is not less: between two even ones that are equally far there is
one that is closer. -/
lemma not_lt (h : i.IsShortest c k) (h' : i.IsShortest c' k) : ¬ c < c' := by
  intro hlt
  have hten : (0 : ℚ) < 10 ^ k := by positivity
  have heq := le_antisymm (h.nearest c' h'.holds) (h'.nearest c h.holds)
  have hstep : c + 1 < c' := by
    have heven := h.even c' hlt.ne' h'.holds heq
    have heven' := h'.even c hlt.ne h.holds heq.symm
    rw [Nat.even_iff] at heven heven'
    omega
  have hlow : (c : ℚ) * 10 ^ k < (c + 1 : ℕ) * 10 ^ k := by
    gcongr
    exact Nat.lt_succ_self c
  have hhigh : ((c + 1 : ℕ) : ℚ) * 10 ^ k < c' * 10 ^ k := by gcongr
  have hnearest := h.nearest (c + 1) (h.holds.convex h'.holds hlow.le hhigh.le)
  simp only [distance] at heq hnearest
  rcases abs_cases ((c : ℚ) * 10 ^ k - i.center) with h1 | h1 <;>
    rcases abs_cases ((c' : ℚ) * 10 ^ k - i.center) with h2 | h2 <;>
    rcases abs_cases (((c + 1 : ℕ) : ℚ) * 10 ^ k - i.center) with h3 | h3 <;>
    linarith

/-- **There is only one shortest decimal.** -/
theorem unique (h : i.IsShortest c k) (h' : i.IsShortest c' k') : c = c' ∧ k = k' := by
  obtain rfl := h.exponent_eq h'
  exact ⟨Nat.le_antisymm (Nat.not_lt.mp (h'.not_lt h)) (Nat.not_lt.mp (h.not_lt h')), rfl⟩

end IsShortest

/-- **The search finds the shortest decimal**, if it tries enough grids below the magnitude of the upper
end. -/
lemma isShortest_search (hi : i.IsAround) {n : ℕ} (hwidth : i.high < 10 ^ n * (i.high - i.low)) :
    i.IsShortest (i.search .even (n + 2) i.topExponent).1 (i.search .even (n + 2) i.topExponent).2 := by
  have hhigh : 0 < i.high := hi.low_pos.trans (hi.low_lt.trans hi.lt_high)
  obtain ⟨htop, hbound⟩ := topExponent_bounds hi.den_pos hhigh
  have hhit : (i.pick? .even (i.topExponent - 1 - n)).isSome := by
    obtain ⟨c, hc⟩ := exists_holds (i := i) (u := 10 ^ (i.topExponent - 1 - n)) (by positivity)
      hi.den_pos (by
        have hle : i.low ≤ i.high := (hi.low_lt.trans hi.lt_high).le
        have hwidth : (i.high : ℚ) < 10 ^ n * (i.high - i.low) := by
          rw [← Nat.cast_sub hle]
          exact_mod_cast hwidth
        rw [zpow_sub₀ (by norm_num), zpow_natCast, div_mul_eq_mul_div, div_lt_iff₀ (by positivity)]
        linarith)
    by_contra hnone
    rw [Bool.not_eq_true, Option.isSome_eq_false_iff, Option.isNone_iff_eq_none] at hnone
    exact not_holds_of_pick? hi hnone c hc
  obtain ⟨hsome, hnone⟩ := search_spec (n := n + 2) (k := i.topExponent) (by omega)
    (by push_cast; omega) hhit
  refine ⟨(pick?_cases hi.den_pos hsome).2.1, fun k' hk' c' hc' => ?_,
    fun c' hc' => (pick?_nearest hi hsome hc').1,
    fun c' hne hc' => (pick?_nearest hi hsome hc').2 rfl hne⟩
  rcases le_or_gt k' i.topExponent with hle | hgt
  · exact not_holds_of_pick? hi (hnone k' hk' hle) c' hc'
  · -- the grid is coarser than the interval reaches up
    have hden : (0 : ℚ) < i.den := by exact_mod_cast hi.den_pos
    rcases Nat.eq_zero_or_pos c' with rfl | hpos
    · have hlow : (0 : ℚ) < i.low := by exact_mod_cast hi.low_pos
      rw [Nat.cast_zero, zero_mul, Holds, zero_mul] at hc'
      rcases hc'.1 with h | ⟨-, h⟩ <;> linarith
    · have hstep : (10 : ℚ) ^ i.topExponent < c' * 10 ^ k' := by
        have hone : (1 : ℚ) ≤ c' := by exact_mod_cast hpos
        have hpow : (10 : ℚ) ^ i.topExponent < 10 ^ k' := zpow_lt_zpow_right₀ (by norm_num) hgt
        nlinarith [zpow_pos (show (0 : ℚ) < 10 by norm_num) k']
      have hlt := mul_lt_mul_of_pos_right hstep hden
      rcases hc'.2 with h | ⟨-, h⟩ <;> linarith

end Interval

/-! ## Doubles -/

/-- The interval of a number lies around it. -/
lemma Interval.isAround_ofNumber (f : BinaryFormat) {m : ℕ} (e : ℤ) (hm : 0 < m) :
    (Interval.ofNumber f m e).IsAround := by
  obtain ⟨hlow, hden, -, -⟩ := ofNumber_bounds f e hm
  have hscale : 0 < (if 2 ≤ e then 2 ^ (e - 2).toNat else 1 : ℕ) := by
    split
    · exact Nat.pow_pos (by decide)
    · exact Nat.one_pos
  refine ⟨hden, hlow, Nat.mul_lt_mul_of_pos_right ?_ hscale, Nat.mul_lt_mul_of_pos_right ?_ hscale⟩
  · split <;> omega
  · omega

/-- **The shortest decimal of a double is the shortest in its interval.** -/
theorem isShortest_shortestDecimal {m : ℕ} (e : ℤ) (hm : 0 < m) (hlt : m < 2 ^ 53) :
    (Interval.ofNumber .double m e).IsShortest (shortestDecimal .double .even m e).1
      (shortestDecimal .double .even m e).2 := by
  refine Interval.isShortest_search (n := 18) (Interval.isAround_ofNumber _ e hm) ?_
  simp only [Interval.ofNumber, ← Nat.sub_mul, ← Nat.mul_assoc]
  refine Nat.mul_lt_mul_of_pos_right ?_ ?_
  · split <;> omega
  · split
    · exact Nat.pow_pos (by decide)
    · exact Nat.one_pos

end DirectorySearch
