import DirectorySearch.Filter.Value
import DirectorySearch.Json.Written
import Mathlib.Tactic.Common

/-!
# Reading string literals back

A filter writes a string between quotes and puts a backslash in front of each quote inside it.  What
reads the filter takes string literals for JSON strings: a backslash starts an escape, and the first
quote that is not escaped ends the string.  This file compares the two.

* `readQuoted?` — reads one string literal off the front of a text: the string, and what follows it.
  Readers differ on control characters that stand bare in a string; a lax one takes them, a strict
  one is the reader of JSON texts (`readParts?_false`).
* **`readQuoted?_literal_iff`** — a string comes back from its literal, with the text behind it left
  over, exactly when it holds no backslash, and no control character where the reader is strict.

One direction is an induction over the string.  For the other, `readParts?_escaped_length` counts: an
escape takes at least two characters and gives one, so a reader that stops where the literal ends has
read fewer characters than a string with a backslash has.
-/

namespace DirectorySearch

/-! ## The reader -/

/-- The parts of a string whose opening quote has been read, up to its closing quote. -/
def readParts? (lax : Bool) : List Char → Option (List StringPart × List Char)
  | [] => none
  | '"' :: rest => some ([], rest)
  | '\\' :: 'u' :: a :: b :: c :: d :: rest =>
    match Written.hexUnit? a b c d, readParts? lax rest with
    | some u, some (parts, rest) => some (.unit u :: parts, rest)
    | _, _ => none
  | '\\' :: c :: rest =>
    match Written.escape? c, readParts? lax rest with
    | some e, some (parts, rest) => some (.char e :: parts, rest)
    | _, _ => none
  | c :: rest =>
    if !lax && c.toNat < 0x20 || c = '\\' then none
    else match readParts? lax rest with
      | some (parts, rest) => some (.char c :: parts, rest)
      | none => none

/-- **Reads a string literal** off the front of a text. -/
def readQuoted? (lax : Bool) : List Char → Option (String × List Char)
  | '"' :: rest =>
    match readParts? lax rest with
    | some (parts, rest) => (stringText? parts).map fun s => (String.ofList s, rest)
    | none => none
  | _ => none

/-- A strict reader is the reader of strings in JSON texts. -/
theorem readParts?_false (text : List Char) : readParts? false text = Written.readString? text := by
  fun_induction readParts? false text with
  | case1 => rfl
  | _ => simp_all [Written.readString?]

/-! ## From the literal to the string -/

lemma readParts?_escape (lax : Bool) {c : Char} (hu : c ≠ 'u') (rest : List Char) :
    readParts? lax ('\\' :: c :: rest)
      = (Written.escape? c).bind fun e =>
          (readParts? lax rest).map fun r => (.char e :: r.1, r.2) := by
  rw [readParts?]
  · cases Written.escape? c <;> cases readParts? lax rest <;> rfl
  · intro a b d e tail h _
    exact hu h

lemma readParts?_bare {lax : Bool} {c : Char} (hq : c ≠ '"') (hb : c ≠ '\\') (rest : List Char) :
    readParts? lax (c :: rest)
      = if !lax && c.toNat < 0x20 then none
        else (readParts? lax rest).map fun r => (.char c :: r.1, r.2) := by
  rw [readParts?]
  · cases readParts? lax rest <;> simp [hb]
  · exact hq
  · intro a b c d rest h
    exact absurd h hb
  · intro c rest h
    exact absurd h hb

/-- Whatever follows a literal, its parts are the characters of the string, if each of them may stand
in a literal as it is or escaped. -/
lemma readParts?_flatMap_literalChar (lax : Bool) (s t : List Char)
    (h : ∀ c ∈ s, c ≠ '\\' ∧ (lax = true ∨ 0x20 ≤ c.toNat)) :
    readParts? lax (s.flatMap literalChar ++ '"' :: t) = some (s.map .char, t) := by
  induction s with
  | nil => rfl
  | cons c s ih =>
      have hs := ih fun d hd => h d (List.mem_cons_of_mem _ hd)
      obtain ⟨hb, hc⟩ := h c List.mem_cons_self
      rw [List.flatMap_cons, List.append_assoc]
      by_cases hq : c = '"'
      · subst hq
        show readParts? lax ('\\' :: '"' :: (s.flatMap literalChar ++ '"' :: t)) = _
        rw [readParts?_escape lax (by decide), hs]
        rfl
      · have hbare : ¬ (!lax && c.toNat < 0x20) = true := by
          rcases hc with hc | hc
          · simp [hc]
          · simp only [Bool.and_eq_true, decide_eq_true_eq, not_and]
            exact fun _ => Nat.not_lt.mpr hc
        rw [literalChar, if_neg hq, List.singleton_append, readParts?_bare hq hb, if_neg hbare, hs]
        rfl

lemma stringText?_map_char (s : List Char) : stringText? (s.map .char) = some s := by
  induction s with
  | nil => rfl
  | cons c s ih => rw [List.map_cons, stringText?, ih, Option.map_some]

/-! ## What a reader cannot give back -/

/-- A reader takes at least the closing quote. -/
lemma readParts?_length {lax : Bool} {text rest : List Char} {parts : List StringPart}
    (h : readParts? lax text = some (parts, rest)) : rest.length < text.length := by
  fun_induction readParts? lax text generalizing parts rest with
  | case1 => simp at h
  | case2 tail =>
      simp only [Option.some.injEq, Prod.mk.injEq] at h
      simp [← h.2]
  | case3 a b c d tail u ps r hr hu ih =>
      simp only [Option.some.injEq, Prod.mk.injEq] at h
      have hlt := ih hr
      rw [h.2] at hlt
      simp only [List.length_cons]
      omega
  | case4 => simp_all
  | case5 c tail _ e ps r hr he ih =>
      simp only [Option.some.injEq, Prod.mk.injEq] at h
      have hlt := ih hr
      rw [h.2] at hlt
      simp only [List.length_cons]
      omega
  | case6 => simp_all
  | case7 => simp_all
  | case8 c tail _ _ _ hc ps r hr ih =>
      simp only [Option.some.injEq, Prod.mk.injEq] at h
      have hlt := ih hr
      rw [h.2] at hlt
      simp only [List.length_cons]
      omega
  | case9 => simp_all

/-- An escape by number takes four hexadecimal digits. -/
lemma readParts?_unit {lax : Bool} {text rest : List Char} {parts : List StringPart}
    (h : readParts? lax ('\\' :: 'u' :: text) = some (parts, rest)) :
    ∃ a b c d tail u ps, text = a :: b :: c :: d :: tail ∧ Written.hexUnit? a b c d = some u
      ∧ readParts? lax tail = some (ps, rest) ∧ parts = .unit u :: ps := by
  match text, h with
  | a :: b :: c :: d :: tail, h =>
      rw [readParts?] at h
      split at h
      · next u ps r hu hr =>
        simp only [Option.some.injEq, Prod.mk.injEq] at h
        exact ⟨a, b, c, d, tail, u, ps, rfl, hu, by rw [hr, h.2], h.1.symm⟩
      · simp at h
  | [], h => simp [readParts?, Written.escape?] at h
  | [_], h => simp [readParts?, Written.escape?] at h
  | [_, _], h => simp [readParts?, Written.escape?] at h
  | [_, _, _], h => simp [readParts?, Written.escape?] at h

lemma hexValue?_bare {c : Char} {n : Nat} (h : hexValue? c = some n) : c ≠ '"' ∧ c ≠ '\\' := by
  constructor
  · rintro rfl
    exact absurd (h.symm.trans (show hexValue? '"' = none by decide)) (by simp)
  · rintro rfl
    exact absurd (h.symm.trans (show hexValue? '\\' = none by decide)) (by simp)

lemma hexUnit?_bare {a b c d : Char} {u : Nat} (h : Written.hexUnit? a b c d = some u) :
    ∀ x ∈ [a, b, c, d], x ≠ '"' ∧ x ≠ '\\' := by
  simp only [Written.hexUnit?, Option.bind_eq_bind, Option.bind_eq_some_iff] at h
  obtain ⟨i, hi, j, hj, k, hk, l, hl, -⟩ := h
  intro x hx
  simp only [List.mem_cons, List.not_mem_nil, or_false] at hx
  rcases hx with rfl | rfl | rfl | rfl
  · exact hexValue?_bare hi
  · exact hexValue?_bare hj
  · exact hexValue?_bare hk
  · exact hexValue?_bare hl

/-- In the literal of a string, a character that stands bare is a character of the string. -/
lemma eq_cons_of_flatMap_literalChar {s t tail : List Char} {c : Char} (hc : c ≠ '"' ∧ c ≠ '\\')
    (h : s.flatMap literalChar ++ '"' :: t = c :: tail) :
    ∃ v, s = c :: v ∧ v.flatMap literalChar ++ '"' :: t = tail := by
  cases s with
  | nil =>
      simp only [List.flatMap_nil, List.nil_append, List.cons.injEq] at h
      exact absurd h.1.symm hc.1
  | cons a v =>
      rw [List.flatMap_cons, List.append_assoc] at h
      by_cases ha : a = '"'
      · rw [literalChar, if_pos ha, List.cons_append, List.cons.injEq] at h
        exact absurd h.1.symm hc.2
      · rw [literalChar, if_neg ha, List.singleton_append, List.cons.injEq] at h
        exact ⟨v, by rw [h.1], h.2⟩

/-- **A backslash costs a character.**  A reader that stops at the end of a literal has read at most
as many parts as the string has characters, and fewer if the string holds a backslash.  The cases
follow the reader: what comes after a backslash of the string belongs to the same escape. -/
lemma readParts?_escaped_length (lax : Bool) (t : List Char) :
    ∀ (s : List Char) (parts : List StringPart),
      readParts? lax (s.flatMap literalChar ++ '"' :: t) = some (parts, t) →
        parts.length ≤ s.length ∧ ('\\' ∈ s → parts.length < s.length)
  | [], parts, h => by
      simp only [List.flatMap_nil, List.nil_append, readParts?, Option.some.injEq, Prod.mk.injEq] at h
      simp [← h.1]
  | c :: s, parts, h => by
      rw [List.flatMap_cons, List.append_assoc] at h
      by_cases hq : c = '"'
      · rw [literalChar, if_pos hq, List.cons_append, List.singleton_append,
          readParts?_escape lax (by decide)] at h
        simp only [Written.escape?, Option.bind_some, Option.map_eq_some_iff, Prod.mk.injEq] at h
        obtain ⟨⟨ps, r⟩, hr, rfl, rfl⟩ := h
        have ih := readParts?_escaped_length lax _ s ps hr
        simp only [hq, List.length_cons, List.mem_cons]
        refine ⟨by omega, fun hm => ?_⟩
        have := ih.2 (hm.resolve_left (by decide))
        omega
      by_cases hb : c = '\\'
      · rw [literalChar, if_neg hq, List.singleton_append, hb] at h
        suffices hlt : parts.length ≤ s.length by
          rw [List.length_cons]
          exact ⟨by omega, fun _ => by omega⟩
        match s, h with
        | [], h =>
            -- the backslash has escaped the closing quote
            rw [List.flatMap_nil, List.nil_append, readParts?_escape lax (by decide)] at h
            simp only [Written.escape?, Option.bind_some, Option.map_eq_some_iff, Prod.mk.injEq] at h
            obtain ⟨⟨ps, r⟩, hr, -, rfl⟩ := h
            exact absurd (readParts?_length hr) (by simp)
        | d :: v, h =>
            rw [List.flatMap_cons, List.append_assoc] at h
            by_cases hdq : d = '"'
            · -- the backslash has escaped the one before the quote, which then ends the string
              rw [literalChar, if_pos hdq, List.cons_append, List.singleton_append,
                readParts?_escape lax (by decide)] at h
              simp only [readParts?, Option.map_some, Option.bind_eq_some_iff, Option.some.injEq,
                Prod.mk.injEq] at h
              obtain ⟨e, -, -, hr⟩ := h
              have := congrArg List.length hr
              simp only [List.length_append, List.length_cons] at this
              omega
            rw [literalChar, if_neg hdq, List.singleton_append] at h
            by_cases hdu : d = 'u'
            · rw [hdu] at h
              obtain ⟨i, j, k, l, tail, u, ps, htext, hu, hr, rfl⟩ := readParts?_unit h
              have hx := hexUnit?_bare hu
              obtain ⟨v₁, rfl, h₁⟩ := eq_cons_of_flatMap_literalChar (hx i (by simp)) htext
              obtain ⟨v₂, rfl, h₂⟩ := eq_cons_of_flatMap_literalChar (hx j (by simp)) h₁
              obtain ⟨v₃, rfl, h₃⟩ := eq_cons_of_flatMap_literalChar (hx k (by simp)) h₂
              obtain ⟨v₄, rfl, h₄⟩ := eq_cons_of_flatMap_literalChar (hx l (by simp)) h₃
              rw [← h₄] at hr
              have ih := readParts?_escaped_length lax t v₄ ps hr
              simp only [List.length_cons]
              omega
            · rw [readParts?_escape lax hdu] at h
              simp only [Option.bind_eq_some_iff, Option.map_eq_some_iff, Prod.mk.injEq] at h
              obtain ⟨e, -, ⟨ps, r⟩, hr, rfl, rfl⟩ := h
              have ih := readParts?_escaped_length lax _ v ps hr
              simp only [List.length_cons]
              omega
      · rw [literalChar, if_neg hq, List.singleton_append, readParts?_bare hq hb] at h
        split at h
        · simp at h
        simp only [Option.map_eq_some_iff, Prod.mk.injEq] at h
        obtain ⟨⟨ps, r⟩, hr, rfl, rfl⟩ := h
        have ih := readParts?_escaped_length lax _ s ps hr
        simp only [List.length_cons, List.mem_cons]
        refine ⟨by omega, fun hm => ?_⟩
        have := ih.2 (hm.resolve_left fun h => hb h.symm)
        omega

/-- Parts stand for at most as many characters. -/
lemma stringText?_length {parts : List StringPart} {s : List Char}
    (h : stringText? parts = some s) : s.length ≤ parts.length := by
  fun_induction stringText? parts generalizing s with
  | case1 =>
      simp only [Option.some.injEq] at h
      simp [← h]
  | case2 c rest ih =>
      obtain ⟨v, hv, rfl⟩ := Option.map_eq_some_iff.mp h
      have := ih hv
      simp only [List.length_cons]
      omega
  | case4 u _ _ v rest _ _ =>
      rename_i ih
      obtain ⟨w, hw, rfl⟩ := Option.map_eq_some_iff.mp h
      have := ih hw
      simp only [List.length_cons]
      omega
  | case7 u rest _ _ ih =>
      obtain ⟨w, hw, rfl⟩ := Option.map_eq_some_iff.mp h
      have := ih hw
      simp only [List.length_cons]
      omega
  | _ => simp at h

/-- A strict reader takes no control character that stands bare. -/
lemma bare_of_readParts? {s t rest : List Char} {parts : List StringPart}
    (h : readParts? false (s.flatMap literalChar ++ '"' :: t) = some (parts, rest))
    (hb : '\\' ∉ s) : ∀ c ∈ s, 0x20 ≤ c.toNat := by
  induction s generalizing parts rest with
  | nil => simp
  | cons c s ih =>
      rw [List.mem_cons, not_or] at hb
      rw [List.flatMap_cons, List.append_assoc] at h
      by_cases hq : c = '"'
      · rw [literalChar, if_pos hq, List.cons_append, List.singleton_append,
          readParts?_escape false (by decide)] at h
        simp only [Option.bind_eq_some_iff, Option.map_eq_some_iff] at h
        obtain ⟨e, -, r, hr, -⟩ := h
        intro d hd
        rcases List.mem_cons.mp hd with rfl | hd
        · rw [hq]
          decide
        · exact ih hr hb.2 d hd
      · rw [literalChar, if_neg hq, List.singleton_append,
          readParts?_bare hq fun h => hb.1 h.symm] at h
        split at h
        · simp at h
        · next hc =>
          obtain ⟨r, hr, -⟩ := Option.map_eq_some_iff.mp h
          intro d hd
          rcases List.mem_cons.mp hd with rfl | hd
          · simpa using hc
          · exact ih hr hb.2 d hd

/-! ## Which strings come back -/

/-- **A string comes back from its literal**, with the text behind it left over, exactly when it holds
no backslash, and no control character where the reader is strict. -/
theorem readQuoted?_literal_iff (lax : Bool) (s : String) (t : List Char) :
    readQuoted? lax ((FilterValue.string s).literal.toList ++ t) = some (s, t)
      ↔ ∀ c ∈ s.toList, c ≠ '\\' ∧ (lax = true ∨ 0x20 ≤ c.toNat) := by
  have hlit : (FilterValue.string s).literal.toList ++ t
      = '"' :: (s.toList.flatMap literalChar ++ '"' :: t) := by
    simp [FilterValue.literal, stringLiteral]
  rw [hlit, readQuoted?]
  constructor
  · intro h
    split at h
    · next parts rest hr =>
      simp only [Option.map_eq_some_iff, Prod.mk.injEq] at h
      obtain ⟨v, hv, rfl, rfl⟩ := h
      rw [String.toList_ofList] at hr ⊢
      have hlen := readParts?_escaped_length lax _ v parts hr
      have hb : '\\' ∉ v := by
        intro hm
        have := stringText?_length hv
        have := hlen.2 hm
        omega
      intro c hc
      refine ⟨fun h => hb (h ▸ hc), ?_⟩
      cases lax with
      | true => exact Or.inl rfl
      | false => exact Or.inr (bare_of_readParts? hr hb c hc)
    · simp at h
  · intro h
    rw [readParts?_flatMap_literalChar lax s.toList t h]
    simp [stringText?_map_char]

/-- The literal of a single backslash takes in the clause behind it, up to the next quote. -/
theorem readQuoted?_literal_backslash :
    readQuoted? false ((FilterValue.string "\\").literal.toList ++ " or uid pr or cn eq \"".toList)
      = some ("\" or uid pr or cn eq ", []) := by
  decide

end DirectorySearch
