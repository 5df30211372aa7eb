import DirectorySearch.Text.Utf8
import Mathlib.Tactic.Common

/-!
# Bytes of a text are read back as the text

* `decodeStep_utf8EncodeChar` — the bytes of a character are one step, whatever comes after them.
* **`decodeLossy_utf8Bytes`** — the bytes of a text give the text back, with nothing replaced.

A character takes one to four bytes.  In each case the leading byte says how many, and the byte after it
lies in the range that keeps out longer spellings of the same number, halves of surrogate pairs and
numbers past the last character.
-/

namespace DirectorySearch

variable {v : Nat} {c : Char}

lemma toNat_ofNat_byte {n : Nat} (h : n < 256) : (UInt8.ofNat n).toNat = n :=
  UInt8.toNat_ofNat_of_lt' h

lemma ofNat_of_eq_toNat (h : v = c.toNat) : Char.ofNat v = c := by
  rw [h, Char.ofNat_toNat]

/-- The ranges that belong to a leading byte of three, for a number that is a character. -/
lemma exists_continuation?_three (hlow : 0x800 ≤ v) (hhigh : v < 0x10000)
    (hscalar : v < 0xd800 ∨ 0xdfff < v) :
    ∃ low high, continuation? (v / 4096 % 16 + 224) = some (low, high, 1) ∧
      low ≤ v / 64 % 64 + 128 ∧ v / 64 % 64 + 128 ≤ high := by
  unfold continuation?
  split_ifs
  all_goals first
    | omega
    | exact ⟨_, _, rfl, by omega, by omega⟩

/-- The ranges that belong to a leading byte of four. -/
lemma exists_continuation?_four (hlow : 0x10000 ≤ v) (hhigh : v < 0x110000) :
    ∃ low high, continuation? (v / 262144 % 8 + 240) = some (low, high, 2) ∧
      low ≤ v / 4096 % 64 + 128 ∧ v / 4096 % 64 + 128 ≤ high := by
  unfold continuation?
  split_ifs
  all_goals first
    | omega
    | exact ⟨_, _, rfl, by omega, by omega⟩

/-- The bits of a leading byte that belong to the number, if so many bytes follow the second. -/
def leadBits (lead more : Nat) : Nat :=
  if more = 0 then lead - 0xc0 else if more = 1 then lead - 0xe0 else lead - 0xf0

lemma leadBits_zero (lead : Nat) : leadBits lead 0 = lead - 0xc0 := rfl

lemma leadBits_one (lead : Nat) : leadBits lead 1 = lead - 0xe0 := rfl

lemma leadBits_two (lead : Nat) : leadBits lead 2 = lead - 0xf0 := rfl

lemma decodeStep_lead {lead b : UInt8} {low high more : Nat} (hlead : 0x80 ≤ lead.toNat)
    (hcontinuation : continuation? lead.toNat = some (low, high, more)) (hlow : low ≤ b.toNat)
    (hhigh : b.toNat ≤ high) (rest : List UInt8) :
    decodeStep lead (b :: rest)
      = decodeTail (leadBits lead.toNat more * 64 + (b.toNat - 0x80)) 2 more rest := by
  rw [decodeStep.eq_def, if_neg (Nat.not_lt.mpr hlead), hcontinuation]
  dsimp only
  rw [if_pos ⟨hlow, hhigh⟩]
  rfl

lemma decodeTail_succ {b : UInt8} (hlow : 0x80 ≤ b.toNat) (hhigh : b.toNat ≤ 0xbf)
    (value size n : Nat) (rest : List UInt8) :
    decodeTail value size (n + 1) (b :: rest)
      = decodeTail (value * 64 + (b.toNat - 0x80)) (size + 1) n rest := by
  rw [decodeTail, if_pos ⟨hlow, hhigh⟩]

/-- **The bytes of a character are one step**, whatever comes after them. -/
lemma decodeStep_utf8EncodeChar (c : Char) (rest : List UInt8) :
    ∃ lead tail, String.utf8EncodeChar c = lead :: tail ∧
      decodeStep lead (tail ++ rest) = .char c (tail.length + 1) := by
  have hvalid : c.toNat < 0xd800 ∨ 0xdfff < c.toNat ∧ c.toNat < 0x110000 := c.valid
  have hbyte : ∀ n, (UInt8.ofNat (n % 64 + 128)).toNat = n % 64 + 128 := fun n =>
    toNat_ofNat_byte (by omega)
  unfold String.utf8EncodeChar
  rw [show c.val.toNat = c.toNat from rfl]
  dsimp only
  split_ifs with h1 h2 h3
  · have hlead : (UInt8.ofNat c.toNat).toNat = c.toNat := toNat_ofNat_byte (by omega)
    refine ⟨_, [], rfl, ?_⟩
    rw [decodeStep.eq_def, hlead, if_pos (by omega), Char.ofNat_toNat]
    rfl
  · have hlead : (UInt8.ofNat (c.toNat / 64 % 32 + 192)).toNat = c.toNat / 64 % 32 + 192 :=
      toNat_ofNat_byte (by omega)
    have hcontinuation : continuation? (c.toNat / 64 % 32 + 192) = some (0x80, 0xbf, 0) := by
      rw [continuation?, if_pos (by omega)]
    refine ⟨_, [_], rfl, ?_⟩
    rw [List.singleton_append, decodeStep_lead (by omega) (hlead ▸ hcontinuation) (by rw [hbyte]; omega)
      (by rw [hbyte]; omega), hlead, hbyte, decodeTail]
    rw [ofNat_of_eq_toNat]
    · rfl
    · rw [leadBits_zero]
      omega
  · have hlead : (UInt8.ofNat (c.toNat / 4096 % 16 + 224)).toNat = c.toNat / 4096 % 16 + 224 :=
      toNat_ofNat_byte (by omega)
    obtain ⟨low, high, hcontinuation, hlow, hhigh⟩ :=
      exists_continuation?_three (v := c.toNat) (by omega) (by omega) (by omega)
    refine ⟨_, [_, _], rfl, ?_⟩
    rw [List.cons_append, List.singleton_append, decodeStep_lead (by omega) (hlead ▸ hcontinuation)
      (by rwa [hbyte]) (by rwa [hbyte]), hlead, hbyte,
      decodeTail_succ (by rw [hbyte]; omega) (by rw [hbyte]; omega), hbyte, decodeTail]
    rw [ofNat_of_eq_toNat]
    · rfl
    · rw [leadBits_one]
      omega
  · have hlead : (UInt8.ofNat (c.toNat / 262144 % 8 + 240)).toNat = c.toNat / 262144 % 8 + 240 :=
      toNat_ofNat_byte (by omega)
    obtain ⟨low, high, hcontinuation, hlow, hhigh⟩ :=
      exists_continuation?_four (v := c.toNat) (by omega) (by omega)
    refine ⟨_, [_, _, _], rfl, ?_⟩
    rw [List.cons_append, List.cons_append, List.singleton_append,
      decodeStep_lead (by omega) (hlead ▸ hcontinuation) (by rwa [hbyte]) (by rwa [hbyte]), hlead, hbyte,
      decodeTail_succ (by rw [hbyte]; omega) (by rw [hbyte]; omega), hbyte,
      decodeTail_succ (by rw [hbyte]; omega) (by rw [hbyte]; omega), hbyte, decodeTail]
    rw [ofNat_of_eq_toNat]
    · rfl
    · rw [leadBits_two]
      omega

/-- **The bytes of a text give the text back.** -/
theorem decodeSteps_utf8Bytes (text : List Char) (rest : List UInt8) :
    decodeSteps (utf8Bytes text ++ rest)
      = text.map (fun c => .char c (String.utf8EncodeChar c).length) ++ decodeSteps rest := by
  induction text with
  | nil => rfl
  | cons c text ih =>
      obtain ⟨lead, tail, hc, hstep⟩ := decodeStep_utf8EncodeChar c (utf8Bytes text ++ rest)
      rw [utf8Bytes, List.flatMap_cons, hc, List.append_assoc, List.cons_append, ← utf8Bytes,
        decodeSteps, hstep]
      have hlength : (String.utf8EncodeChar c).length = tail.length + 1 := by
        rw [hc, List.length_cons]
      simp only [DecodeStep.size, Nat.add_sub_cancel, List.drop_left, ih, List.map_cons, hlength,
        List.cons_append]

theorem decodeLossy_utf8Bytes (text : List Char) : decodeLossy (utf8Bytes text) = text := by
  have hsteps := decodeSteps_utf8Bytes text []
  rw [List.append_nil] at hsteps
  rw [decodeLossy, hsteps, decodeSteps, List.append_nil, List.map_map]
  exact List.map_id text

end DirectorySearch
