import DirectorySearch.Toml.Quoted
import Mathlib.Data.List.TakeWhile
import Mathlib.Tactic.Common

/-!
# A text put between double quotes

A text between double quotes is read as itself as long as it has neither a quote nor a backslash.  With
one of them it is read as something else.

* `readBasic?_plain` — a text without quotes and backslashes is read as itself, up to the quote behind it.
* `readBasic?_firstQuote` — a backslash brings the first quote of what is read further to the front.
* **`readQuoted?_eq_iff`** — what is read is the text exactly when the text has neither.

Two quotes at the front of the text, or one that is all of it, open a string of several lines together
with the quotes around the text.
-/

namespace DirectorySearch.Toml

/-- A text without quotes and backslashes. -/
def IsPlain (v : List Char) : Prop := '"' ∉ v ∧ '\\' ∉ v

/-- A text that opens a string of several lines when it is put between quotes. -/
def OpensLong (v : List Char) : Prop := v = ['"'] ∨ ['"', '"'] <+: v

lemma isPlain_cons {c : Char} {v : List Char} :
    IsPlain (c :: v) ↔ (c ≠ '"' ∧ c ≠ '\\') ∧ IsPlain v := by
  simp only [IsPlain, List.mem_cons, not_or, ne_comm (a := c)]
  tauto

lemma IsPlain.not_opensLong {v : List Char} (h : IsPlain v) : ¬ OpensLong v := by
  rintro (rfl | hfront)
  · exact h.1 (List.mem_singleton_self _)
  · exact h.1 (hfront.subset (List.mem_cons_self ..))

lemma readBasic?_char {c : Char} {text : List Char} (hquote : c ≠ '"') (hbackslash : c ≠ '\\') :
    readBasic? (c :: text) =
      if isControl c then none else (readBasic? text).map fun (s, rest) => (c :: s, rest) := by
  rw [readBasic?]
  · exact hquote
  · exact hbackslash

/-- A text without quotes and backslashes is read as itself, if it can be read. -/
lemma readBasic?_plain {v : List Char} (h : IsPlain v) (after : List Char) :
    readBasic? (v ++ '"' :: after) = if v.any isControl then none else some (v, after) := by
  induction v with
  | nil => rw [List.nil_append, readBasic?, List.any_nil, if_neg Bool.false_ne_true]
  | cons c v ih =>
      obtain ⟨⟨hquote, hbackslash⟩, hv⟩ := isPlain_cons.mp h
      rw [List.cons_append, readBasic?_char hquote hbackslash, ih hv, List.any_cons]
      cases isControl c <;> cases v.any isControl <;> rfl

lemma hexChar?_quote {digits : List Char} (h : '"' ∈ digits) : hexChar? digits = none := by
  have hvalues : digits.mapM hexValue? = none := by
    induction digits with
    | nil => simp at h
    | cons d digits ih =>
        rw [List.mapM_cons]
        rcases List.mem_cons.mp h with rfl | h
        · rfl
        · rw [ih h]
          cases hexValue? d <;> rfl
  rw [hexChar?, hvalues]

/-- An escape that goes as far as a quote is the escape of the quote. -/
lemma readEscape?_quote {w t : List Char} {e : Char} {n : Nat}
    (h : readEscape? (w ++ '"' :: t) = some (e, n)) (hn : w.length ≤ n) : e = '"' := by
  cases w with
  | nil =>
      obtain ⟨rfl, -⟩ := Prod.mk.inj (Option.some.inj h)
      rfl
  | cons c w =>
      rw [List.cons_append, readEscape?] at h
      split at h
      · obtain ⟨-, rfl⟩ := Prod.mk.inj (Option.some.inj h)
        simp at hn
      · next count _ _ =>
        split_ifs at h with hcount
        obtain ⟨e', he', hpair⟩ := Option.map_eq_some_iff.mp h
        obtain ⟨-, rfl⟩ := Prod.mk.inj hpair
        have hmem : '"' ∈ (w ++ '"' :: t).take count := by
          rw [List.take_append, List.mem_append]
          right
          obtain ⟨k, hk⟩ : ∃ k, count - w.length = k + 1 :=
            Nat.exists_eq_succ_of_ne_zero (by simp at hn; omega)
          simp [hk]
        rw [hexChar?_quote hmem] at he'
        simp at he'
      · simp at h

/-- **A backslash brings the first quote to the front**: what is read before the first quote of the text
is the text before it, or less. -/
lemma readBasic?_firstQuote {w t s rest : List Char} (hw : '"' ∉ w)
    (h : readBasic? (w ++ '"' :: t) = some (s, rest)) :
    (IsPlain w ∧ s = w) ∨ (s.takeWhile (· ≠ '"')).length < w.length := by
  induction hlen : w.length using Nat.strong_induction_on generalizing w s rest with
  | _ len ih =>
  subst hlen
  cases w with
  | nil =>
      rw [List.nil_append, readBasic?] at h
      obtain ⟨rfl, -⟩ := Prod.mk.inj (Option.some.inj h)
      exact .inl ⟨by simp [IsPlain], rfl⟩
  | cons c w =>
    have hquote : c ≠ '"' := fun hc => hw (hc ▸ List.mem_cons_self)
    by_cases hbackslash : c = '\\'
    · subst hbackslash
      rw [List.cons_append, readBasic?] at h
      split at h
      · simp at h
      next e n hescape =>
      obtain ⟨⟨s', rest'⟩, hmore, hpair⟩ := Option.map_eq_some_iff.mp h
      obtain ⟨rfl, -⟩ := Prod.mk.inj hpair
      right
      rcases Nat.lt_or_ge n w.length with hn | hn
      · rw [List.drop_append_of_le_length hn] at hmore
        have hdrop : '"' ∉ w.drop (n + 1) := fun hmem => hw (.tail _ (List.mem_of_mem_drop hmem))
        have hlength : (s'.takeWhile (· ≠ '"')).length ≤ (w.drop (n + 1)).length := by
          have hless : (w.drop (n + 1)).length < ('\\' :: w).length := by
            rw [List.length_drop, List.length_cons]
            omega
          rcases ih _ hless hdrop hmore rfl with ⟨-, rfl⟩ | hshort
          · exact (List.takeWhile_prefix _).length_le
          · exact hshort.le
        calc ((e :: s').takeWhile (· ≠ '"')).length
            ≤ (s'.takeWhile (· ≠ '"')).length + 1 := by
              rw [List.takeWhile_cons]
              split <;> simp
          _ ≤ (w.drop (n + 1)).length + 1 := Nat.add_le_add_right hlength 1
          _ < w.length + 1 := by
              rw [List.length_drop]
              omega
      · rw [readEscape?_quote hescape hn]
        simp
    · rw [List.cons_append, readBasic?_char hquote hbackslash] at h
      split_ifs at h
      obtain ⟨⟨s', rest'⟩, hmore, hpair⟩ := Option.map_eq_some_iff.mp h
      obtain ⟨rfl, -⟩ := Prod.mk.inj hpair
      rcases ih w.length (by simp) (fun hmem => hw (.tail _ hmem)) hmore rfl with ⟨hplain, rfl⟩ | hshort
      · exact .inl ⟨isPlain_cons.mpr ⟨⟨hquote, hbackslash⟩, hplain⟩, rfl⟩
      · right
        simpa [List.takeWhile_cons, hquote] using hshort

/-- The first quote of a text with a quote behind it. -/
lemma firstQuote_append (v after : List Char) :
    ∃ t, v ++ '"' :: after = v.takeWhile (· ≠ '"') ++ '"' :: t := by
  induction v with
  | nil => exact ⟨after, rfl⟩
  | cons c v ih =>
      obtain ⟨t, ht⟩ := ih
      by_cases hc : c = '"'
      · exact ⟨v ++ '"' :: after, by simp [hc]⟩
      · exact ⟨t, by simp [hc, ht]⟩

/-- **What is read is the text exactly when the text has neither a quote nor a backslash.** -/
theorem readBasic?_eq_iff {v after s rest : List Char}
    (h : readBasic? (v ++ '"' :: after) = some (s, rest)) : s = v ↔ IsPlain v := by
  constructor
  · rintro rfl
    obtain ⟨t, ht⟩ := firstQuote_append s after
    rw [ht] at h
    have hnone : '"' ∉ s.takeWhile (· ≠ '"') := fun hmem => by simpa using List.mem_takeWhile_imp hmem
    rcases readBasic?_firstQuote hnone h with ⟨hplain, heq⟩ | hshort
    · rwa [← heq] at hplain
    · exact absurd hshort (lt_irrefl _)
  · intro hplain
    rw [readBasic?_plain hplain] at h
    split_ifs at h
    exact (Prod.mk.inj (Option.some.inj h)).1.symm

/-- A quote with no two others behind it opens a string on one line. -/
lemma readQuoted?_of_not_isPrefix {text : List Char} (h : ¬ ['"', '"'] <+: text) :
    readQuoted? ('"' :: text) = readBasic? text := by
  rw [readQuoted?]
  rintro rest rfl
  exact h ⟨rest, rfl⟩

/-- A text between quotes is read as a string on one line unless it opens one of several lines. -/
lemma readQuoted?_of_not_opensLong {v after : List Char} (hv : ¬ OpensLong v)
    (hafter : after.head? ≠ some '"') :
    readQuoted? ('"' :: (v ++ '"' :: after)) = readBasic? (v ++ '"' :: after) := by
  refine readQuoted?_of_not_isPrefix ?_
  rintro ⟨rest, hrest⟩
  match v with
  | [] =>
      obtain rfl : after = '"' :: rest := (List.cons.inj hrest).2.symm
      exact hafter rfl
  | [c] =>
      obtain rfl : c = '"' := (List.cons.inj hrest).1.symm
      exact hv (.inl rfl)
  | c :: d :: v =>
      obtain ⟨hc, hd⟩ := List.cons.inj hrest
      exact hv (.inr ⟨v, by rw [← hc, ← (List.cons.inj hd).1]; rfl⟩)

end DirectorySearch.Toml
