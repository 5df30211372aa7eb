import DirectorySearch.Json.Written
import Mathlib.Tactic.Common
import Mathlib.Tactic.Linarith
import Mathlib.Tactic.Ring

/-!
# Plain numbers are JSON numbers

A filter writes integers and doubles without exponent.  This file shows that what it writes is a
number of the JSON grammar and is read back character by character.

* `NumberText.IsJson` — the numbers of the JSON grammar; `NumberText.IsPlain` — those without exponent.
* `readNumber?_characters` — a number of the grammar is read back from its characters.
* **`exists_isPlain_integerText`**, **`exists_isPlain_plain`** — integers and finite doubles are
  written as such numbers.

The second needs that the digits of a double do not start with a zero, hence that its shortest decimal
is positive (`shortestDecimal_pos`).  A decimal that is picked lies in an interval above zero; the one
that is taken when no grid has a hit is positive because twenty grids reach below the number.
-/

namespace DirectorySearch

/-! ## The shortest decimal is positive -/

namespace Interval

lemma pos_of_contains {i : Interval} {scale unit c : Nat} (hlow : 0 < i.low) (hscale : 0 < scale)
    (h : i.contains scale unit c = true) : 0 < c := by
  rcases Nat.eq_zero_or_pos c with rfl | hc
  · have hpos : 0 < i.low * scale := Nat.mul_pos hlow hscale
    simp only [contains, Nat.zero_mul, Bool.and_eq_true, Bool.or_eq_true, decide_eq_true_eq] at h
    rcases h.1 with h | ⟨-, h⟩
    · exact absurd h (Nat.not_lt_zero _)
    · exact absurd h hpos.ne'
  · exact hc

lemma pick?_pos {i : Interval} {tie : Tie} {k : Int} {c : Nat} (hlow : 0 < i.low)
    (h : i.pick? tie k = some c) : 0 < c := by
  have hscale : 0 < 10 ^ (-k).toNat := Nat.pow_pos (by decide)
  simp only [pick?] at h
  generalize i.middle * 10 ^ (-k).toNat / (i.den * 10 ^ k.toNat) = q at h
  split at h
  · next hc _ =>
    have hpos := pos_of_contains hlow hscale hc
    grind
  · next hc _ =>
    have hpos := pos_of_contains hlow hscale hc
    rw [Option.some.injEq] at h
    exact h ▸ hpos
  · rw [Option.some.injEq] at h
    exact h ▸ Nat.succ_pos q
  · simp at h

/-- The search gives a positive number if its last grid, where it stops looking for a hit, is no
coarser than the number. -/
lemma search_pos {i : Interval} (tie : Tie) (hlow : 0 < i.low) :
    ∀ (n : Nat) (k : Int), 0 < i.den →
      i.den * 10 ^ (k - n).toNat ≤ i.middle * 10 ^ (-(k - n)).toNat → 0 < (i.search tie n k).1
  | 0, k, hden, h => by
      rw [search]
      simp only [Nat.cast_zero, sub_zero] at h
      exact Nat.div_pos h (Nat.mul_pos hden (Nat.pow_pos (by decide)))
  | n + 1, k, hden, h => by
      rw [search]
      split
      · next c hc => exact pick?_pos hlow hc
      · refine search_pos tie hlow n (k - 1) hden ?_
        have hk : k - 1 - (n : Int) = k - ((n + 1 : Nat) : Int) := by omega
        rw [hk]
        exact h

/-- The twentieth grid below the top is no coarser than the number. -/
lemma topExponent_sub_le {i : Interval} (hden : 0 < i.den) (hhigh : 0 < i.high)
    (hmid : 2 * i.high ≤ 3 * i.middle) :
    i.den * 10 ^ (i.topExponent - (20 : Nat)).toNat
      ≤ i.middle * 10 ^ (-(i.topExponent - (20 : Nat))).toNat := by
  have hten : ∀ a : Nat, 0 < 10 ^ a := fun a => Nat.pow_pos (by decide)
  by_cases hwhole : i.high / i.den = 0
  · have hlt : i.den / i.high < 10 ^ digitCount (i.den / i.high) :=
      (Nat.length_toDigits_le_iff (by decide) Nat.length_toDigits_pos).mp (le_refl _)
    have htop : i.topExponent = 1 - (digitCount (i.den / i.high) : Int) := by
      simp [topExponent, hwhole]
    rw [htop]
    set d := digitCount (i.den / i.high)
    have h0 : (1 - (d : Int) - (20 : Nat)).toNat = 0 := by omega
    have h1 : (-(1 - (d : Int) - (20 : Nat))).toNat = d + 19 := by omega
    rw [h0, h1, pow_zero, Nat.mul_one, pow_add]
    have hd : i.den < 10 ^ d * i.high := (Nat.div_lt_iff_lt_mul hhigh).mp hlt
    nlinarith [hten d]
  · have hpos : 0 < i.high / i.den := Nat.pos_of_ne_zero hwhole
    have htop : i.topExponent = (digitCount (i.high / i.den) : Int) := by
      simp [topExponent, hwhole]
    rw [htop]
    have hd : 0 < digitCount (i.high / i.den) := Nat.length_toDigits_pos
    have hle : 10 ^ (digitCount (i.high / i.den) - 1) ≤ i.high / i.den := by
      by_contra hlt
      rcases Nat.eq_zero_or_pos (digitCount (i.high / i.den) - 1) with h0 | h0
      · rw [h0] at hlt
        omega
      · have := (Nat.length_toDigits_le_iff (by decide) h0).mpr (Nat.lt_of_not_le hlt)
        have : digitCount (i.high / i.den) ≤ digitCount (i.high / i.den) - 1 := this
        omega
    set d := digitCount (i.high / i.den)
    have hlow : 10 ^ (d - 1) * i.den ≤ i.high := (Nat.le_div_iff_mul_le hden).mp hle
    rcases Nat.lt_or_ge d 20 with h20 | h20
    · obtain ⟨j, hj⟩ : ∃ j, 20 = d + (j + 1) := ⟨20 - d - 1, by omega⟩
      have h0 : ((d : Int) - (20 : Nat)).toNat = 0 := by omega
      have h1 : (-((d : Int) - (20 : Nat))).toNat = j + 1 := by omega
      rw [h0, h1, pow_zero, Nat.mul_one, pow_succ]
      nlinarith [hten j, hten (d - 1)]
    · obtain ⟨j, hj⟩ : ∃ j, d = j + 20 := ⟨d - 20, by omega⟩
      have h0 : ((d : Int) - (20 : Nat)).toNat = j := by omega
      have h1 : (-((d : Int) - (20 : Nat))).toNat = 0 := by omega
      have h2 : d - 1 = j + 19 := by omega
      rw [h2, pow_add] at hlow
      rw [h0, h1, pow_zero, Nat.mul_one]
      nlinarith

lemma ofNumber_bounds (f : BinaryFormat) {m : Nat} (e : Int) (hm : 0 < m) :
    let i := Interval.ofNumber f m e
    0 < i.low ∧ 0 < i.den ∧ 0 < i.high ∧ 2 * i.high ≤ 3 * i.middle := by
  intro i
  have hscale : 0 < (if 2 ≤ e then 2 ^ (e - 2).toNat else 1 : Nat) := by
    split
    · exact Nat.pow_pos (by decide)
    · exact Nat.one_pos
  have hden : 0 < (if 2 ≤ e then 1 else 2 ^ (2 - e).toNat : Nat) := by
    split
    · exact Nat.one_pos
    · exact Nat.pow_pos (by decide)
  refine ⟨Nat.mul_pos ?_ hscale, hden, Nat.mul_pos (by omega) hscale, ?_⟩
  · split <;> omega
  · show 2 * ((4 * m + 2) * _) ≤ 3 * (4 * m * _)
    rw [← Nat.mul_assoc, ← Nat.mul_assoc]
    exact Nat.mul_le_mul_right _ (by omega)

end Interval

/-- **The shortest decimal of a positive number is positive.** -/
lemma shortestDecimal_pos (f : BinaryFormat) (tie : Tie) {m : Nat} (e : Int) (hm : 0 < m) :
    0 < (shortestDecimal f tie m e).1 := by
  obtain ⟨hlow, hden, hhigh, hmid⟩ := Interval.ofNumber_bounds f e hm
  exact Interval.search_pos tie hlow 20 _ hden (Interval.topExponent_sub_le hden hhigh hmid)

/-! ## Plain numbers -/

/-- A number without exponent and without a zero in front of other digits. -/
structure NumberText.IsPlain (t : NumberText) : Prop where
  /-- The digits before the point are a lone zero or start with another digit. -/
  leading : t.whole = ['0'] ∨ ∃ d ds, t.whole = d :: ds ∧ d ≠ '0'
  whole_digits : ∀ c ∈ t.whole, c.isDigit = true
  fraction_digits : ∀ c ∈ t.fraction, c.isDigit = true
  no_exponent : t.exponent = none

structure ExponentText.IsJson (e : ExponentText) : Prop where
  letter : e.letter = 'e' ∨ e.letter = 'E'
  sign : ∀ c ∈ e.sign, c = '+' ∨ c = '-'
  digits_ne_nil : e.digits ≠ []
  digits : ∀ c ∈ e.digits, c.isDigit = true

structure NumberText.IsJson (t : NumberText) : Prop where
  /-- The digits before the point are a lone zero or start with another digit. -/
  leading : t.whole = ['0'] ∨ ∃ d ds, t.whole = d :: ds ∧ d ≠ '0'
  whole_digits : ∀ c ∈ t.whole, c.isDigit = true
  fraction_digits : ∀ c ∈ t.fraction, c.isDigit = true
  exponent : ∀ e ∈ t.exponent, e.IsJson

lemma NumberText.IsPlain.isJson {t : NumberText} (h : t.IsPlain) : t.IsJson where
  leading := h.leading
  whole_digits := h.whole_digits
  fraction_digits := h.fraction_digits
  exponent e he := by
    rw [h.no_exponent] at he
    simp at he

/-- A number starts with its sign or with a digit. -/
lemma NumberText.exists_characters_cons {t : NumberText}
    (hlead : t.whole = ['0'] ∨ ∃ d ds, t.whole = d :: ds ∧ d ≠ '0')
    (hdigits : ∀ c ∈ t.whole, c.isDigit = true) :
    ∃ c cs, t.characters = c :: cs ∧ (c = '-' ∨ c.isDigit = true) := by
  obtain ⟨d, ds, hds⟩ : ∃ d ds, t.whole = d :: ds := by
    rcases hlead with h | ⟨d, ds, h, -⟩
    · exact ⟨'0', [], h⟩
    · exact ⟨d, ds, h⟩
  have hd : d.isDigit = true := hdigits d (hds ▸ List.mem_cons_self)
  cases hsign : t.negative with
  | true => exact ⟨'-', _, by rw [NumberText.characters, hsign]; rfl, Or.inl rfl⟩
  | false => exact ⟨d, _, by rw [NumberText.characters, hsign, hds]; rfl, Or.inr hd⟩

lemma isDigit_of_mem_decimalDigits {n : Nat} {c : Char} (h : c ∈ decimalDigits n) :
    c.isDigit = true :=
  Nat.isDigit_of_mem_toDigits (by decide) (by decide) h

/-- The digits of a positive number do not start with a zero. -/
lemma exists_decimalDigits_cons {n : Nat} (hn : 0 < n) :
    ∃ d ds, decimalDigits n = d :: ds ∧ d ≠ '0' := by
  induction n using Nat.strong_induction_on with
  | h n ih =>
      rcases Nat.lt_or_ge n 10 with hlt | hge
      · have hdigit : ∀ m < 10, 0 < m → Nat.digitChar m ≠ '0' := by decide
        exact ⟨_, [], Nat.toDigits_of_lt_base hlt, hdigit n hlt hn⟩
      · obtain ⟨d, ds, hds, hd⟩ := ih (n / 10) (by omega) (by omega)
        refine ⟨d, ds ++ [Nat.digitChar (n % 10)], ?_, hd⟩
        rw [decimalDigits, Nat.toDigits_of_base_le (by decide) hge]
        rw [decimalDigits] at hds
        rw [hds, List.cons_append]

/-- A positive decimal in positional notation is a plain number of either sign. -/
lemma exists_isPlain_positional (negative : Bool) {c : Nat} (k : Int) (hc : 0 < c) :
    ∃ t : NumberText, t.IsPlain ∧ t.characters = signed negative (positional c k) := by
  obtain ⟨d, ds, hds, hd⟩ := exists_decimalDigits_cons hc
  have hall : ∀ x ∈ d :: ds, x.isDigit = true := fun x hx =>
    isDigit_of_mem_decimalDigits (hds ▸ hx)
  have hzeros : ∀ (a : Nat), ∀ x ∈ List.replicate a '0', x.isDigit = true := fun a x hx => by
    rw [(List.mem_replicate.mp hx).2]
    rfl
  rw [positional, hds]
  split
  · refine ⟨⟨negative, d :: ds ++ List.replicate k.toNat '0', [], none⟩,
      ⟨Or.inr ⟨d, _, rfl, hd⟩, ?_, by simp, rfl⟩, by simp [NumberText.characters]⟩
    intro x hx
    rcases List.mem_append.mp hx with hx | hx
    · exact hall x hx
    · exact hzeros _ x hx
  · next hk =>
    split
    · next hpoint =>
      obtain ⟨p, hp⟩ : ∃ p, (((d :: ds).length : Int) + k).toNat = p + 1 :=
        ⟨(((d :: ds).length : Int) + k).toNat - 1, by omega⟩
      have hlt : p + 1 < (d :: ds).length := by omega
      have hdrop : (d :: ds).drop (p + 1) ≠ [] := by
        rw [Ne, List.drop_eq_nil_iff]
        omega
      rw [hp]
      refine ⟨⟨negative, (d :: ds).take (p + 1), (d :: ds).drop (p + 1), none⟩,
        ⟨Or.inr ⟨d, ds.take p, rfl, hd⟩, fun x hx => hall x (List.mem_of_mem_take hx),
          fun x hx => hall x (List.mem_of_mem_drop hx), rfl⟩, ?_⟩
      simp only [NumberText.characters, if_neg hdrop, Option.map_none, Option.getD_none,
        List.append_nil]
    · refine ⟨⟨negative, ['0'], List.replicate (-(((d :: ds).length : Int) + k)).toNat '0'
        ++ d :: ds, none⟩, ⟨Or.inl rfl, by simp, ?_, rfl⟩, by simp [NumberText.characters]⟩
      intro x hx
      rcases List.mem_append.mp hx with hx | hx
      · exact hzeros _ x hx
      · exact hall x hx

/-- Zero is a plain number of either sign. -/
lemma exists_isPlain_zero (negative : Bool) :
    ∃ t : NumberText, t.IsPlain ∧ t.characters = signed negative ['0'] :=
  ⟨⟨negative, ['0'], [], none⟩, ⟨Or.inl rfl, by simp, by simp, rfl⟩, rfl⟩

/-- **Integers are written as plain numbers.** -/
lemma exists_isPlain_integerText (n : Int) :
    ∃ t : NumberText, t.IsPlain ∧ t.characters = Json.integerText n := by
  have hpos : ∀ m : Nat, 0 < m → positional m 0 = decimalDigits m := fun m _ => by
    simp [positional]
  match n with
  | .ofNat 0 => exact exists_isPlain_zero false
  | .ofNat (m + 1) =>
      rw [Json.integerText, ← hpos _ (Nat.succ_pos m)]
      exact exists_isPlain_positional false 0 (Nat.succ_pos m)
  | .negSucc m =>
      rw [Json.integerText, ← hpos _ (Nat.succ_pos m)]
      exact exists_isPlain_positional true 0 (Nat.succ_pos m)

/-- **Finite doubles are written as plain numbers.** -/
lemma exists_isPlain_plain {x : Binary64} {s : Bool} {m : Nat} {e : Int}
    (h : x.number = .finite s m e) : ∃ t : NumberText, t.IsPlain ∧ t.characters = x.plain := by
  rw [Binary64.plain, h]
  cases m with
  | zero => exact exists_isPlain_zero s
  | succ m => exact exists_isPlain_positional s _ (shortestDecimal_pos .double .up e (Nat.succ_pos m))

/-! ## Reading numbers -/

/-- Characters of a class are read as far as they go. -/
lemma takeWhile_append_of_stop {p : Char → Bool} {run rest : List Char}
    (hrun : ∀ c ∈ run, p c = true) (hrest : ∀ c ∈ rest.head?, p c = false) :
    (run ++ rest).takeWhile p = run ∧ (run ++ rest).dropWhile p = rest := by
  rw [List.takeWhile_append_of_pos hrun, List.dropWhile_append_of_pos hrun]
  cases rest with
  | nil => simp
  | cons c rest =>
      have hc := hrest c rfl
      simp [hc]

lemma readDigits_append {digits rest : List Char} (hdigits : ∀ c ∈ digits, c.isDigit = true)
    (hrest : ∀ c ∈ rest.head?, c.isDigit = false) :
    Written.readDigits (digits ++ rest) = (digits, rest) := by
  obtain ⟨htake, hdrop⟩ := takeWhile_append_of_stop hdigits hrest
  rw [Written.readDigits, htake, hdrop]

lemma readWhole?_append {whole rest : List Char}
    (hlead : whole = ['0'] ∨ ∃ d ds, whole = d :: ds ∧ d ≠ '0')
    (hdigits : ∀ c ∈ whole, c.isDigit = true) (hrest : ∀ c ∈ rest.head?, c.isDigit = false) :
    Written.readWhole? (whole ++ rest) = some (whole, rest) := by
  rcases hlead with rfl | ⟨d, ds, rfl, hd⟩
  · cases rest with
    | nil => rfl
    | cons c rest =>
        have hc : c.isDigit = false := hrest c rfl
        simp [Written.readWhole?, hc]
  · rw [List.cons_append, Written.readWhole?, if_pos (hdigits d List.mem_cons_self),
      ← List.cons_append, readDigits_append hdigits hrest]
    exact fun h => hd h

lemma readFraction?_append {fraction rest : List Char}
    (hdigits : ∀ c ∈ fraction, c.isDigit = true)
    (hrest : ∀ c ∈ rest.head?, c.isDigit = false ∧ c ≠ '.') :
    Written.readFraction? ((if fraction = [] then [] else '.' :: fraction) ++ rest)
      = some (fraction, rest) := by
  split
  · next h =>
    subst h
    cases rest with
    | nil => rfl
    | cons c rest =>
        have hc : c ≠ '.' := (hrest c rfl).2
        rw [List.nil_append, Written.readFraction?]
        intro tail h
        exact hc (List.cons.inj h).1
  · next h =>
    rw [List.cons_append, Written.readFraction?,
      readDigits_append hdigits fun c hc => (hrest c hc).1]
    cases fraction with
    | nil => exact absurd rfl h
    | cons c fraction => rfl

lemma readExponent?_append {exponent : Option ExponentText} (h : ∀ e ∈ exponent, e.IsJson)
    {rest : List Char} (hrest : ∀ c ∈ rest.head?, c.isDigit = false ∧ c ≠ 'e' ∧ c ≠ 'E') :
    Written.readExponent? ((exponent.map ExponentText.characters).getD [] ++ rest)
      = some (exponent, rest) := by
  cases exponent with
  | none =>
      cases rest with
      | nil => rfl
      | cons c rest =>
          have hc := hrest c rfl
          simp [Written.readExponent?, hc.2.1, hc.2.2]
  | some e =>
      obtain ⟨letter, sign, digits⟩ := e
      obtain ⟨hletter, hsign, hne, hdigits⟩ := h _ rfl
      dsimp only at hletter hsign hne hdigits
      have hread := readDigits_append hdigits fun c hc => (hrest c hc).1
      obtain ⟨d, ds, rfl⟩ := List.exists_cons_of_ne_nil hne
      have hd : d ≠ '+' ∧ d ≠ '-' := by
        have hd := hdigits d List.mem_cons_self
        constructor <;> (rintro rfl; exact absurd hd (by decide))
      have hsigned : Written.readSign (sign.toList ++ (d :: ds ++ rest)) = (sign, d :: ds ++ rest) := by
        cases sign with
        | none => simp [Written.readSign, hd.1, hd.2]
        | some c => rcases hsign c rfl with rfl | rfl <;> rfl
      have hbody : (((some (ExponentText.mk letter sign (d :: ds))).map ExponentText.characters).getD []
          ++ rest) = letter :: (sign.toList ++ (d :: ds ++ rest)) := by
        simp [ExponentText.characters]
      rw [hbody, Written.readExponent?, if_pos (by rcases hletter with rfl | rfl <;> rfl), hsigned]
      dsimp only
      rw [hread]

/-- **A number is read back** from its characters, if what follows cannot belong to it. -/
lemma readNumber?_characters {t : NumberText} (h : t.IsJson) {rest : List Char}
    (hrest : ∀ c ∈ rest.head?, c.isDigit = false ∧ c ≠ '.' ∧ c ≠ 'e' ∧ c ≠ 'E') :
    Written.readNumber? (t.characters ++ rest) = some (t, rest) := by
  obtain ⟨negative, whole, fraction, exponent⟩ := t
  obtain ⟨hlead, hwhole, hfraction, hexponent⟩ := h
  dsimp only at hlead hwhole hfraction hexponent
  set point := if fraction = [] then [] else '.' :: fraction with hpoint
  set power := (exponent.map ExponentText.characters).getD [] with hpower
  have hcharacters : NumberText.characters ⟨negative, whole, fraction, exponent⟩ ++ rest
      = signed negative (whole ++ (point ++ (power ++ rest))) := by
    cases negative <;> simp [NumberText.characters, signed, hpoint, hpower]
  -- neither an exponent nor what follows the number goes on with its digits
  have hpower_head : ∀ c ∈ (power ++ rest).head?, c.isDigit = false ∧ c ≠ '.' := by
    intro c hc
    rw [hpower] at hc
    cases exponent with
    | none => exact ⟨(hrest c hc).1, (hrest c hc).2.1⟩
    | some e =>
        simp only [Option.map_some, Option.getD_some, ExponentText.characters, List.cons_append,
          List.head?_cons, Option.mem_def, Option.some.injEq] at hc
        subst hc
        rcases (hexponent e rfl).letter with hletter | hletter <;> rw [hletter] <;> decide
  have hpoint_head : ∀ c ∈ (point ++ (power ++ rest)).head?, c.isDigit = false := by
    intro c hc
    rw [hpoint] at hc
    split at hc
    · exact (hpower_head c hc).1
    · simp only [List.cons_append, List.head?_cons, Option.mem_def, Option.some.injEq] at hc
      rw [← hc]
      rfl
  have hsign : ∀ tail, whole ++ (point ++ (power ++ rest)) = '-' :: tail → False := by
    intro tail htail
    rcases hlead with rfl | ⟨d, ds, rfl, -⟩
    · simp at htail
    · have hd := hwhole d List.mem_cons_self
      rw [(List.cons.inj htail).1] at hd
      exact absurd hd (by decide)
  have hread : ∀ negative,
      ((Written.readWhole? (whole ++ (point ++ (power ++ rest)))).bind fun w =>
        (Written.readFraction? w.2).bind fun f =>
          (Written.readExponent? f.2).bind fun e =>
            some (NumberText.mk negative w.1 f.1 e.1, e.2))
        = some (NumberText.mk negative whole fraction exponent, rest) := by
    intro negative
    rw [readWhole?_append hlead hwhole hpoint_head, Option.bind_some, hpoint,
      readFraction?_append hfraction hpower_head, Option.bind_some, hpower,
      readExponent?_append hexponent fun c hc => ⟨(hrest c hc).1, (hrest c hc).2.2⟩, Option.bind_some]
  rw [hcharacters]
  cases negative with
  | true => exact hread true
  | false =>
      rw [Written.readNumber?]
      · exact hread false
      · exact fun tail h => hsign tail h

end DirectorySearch
