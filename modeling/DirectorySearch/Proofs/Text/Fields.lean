import DirectorySearch.Text.Fields
import Mathlib.Tactic.Common

/-!
# Pieces of a text that goes on

* `fields_append`, `fields_of_not_mem` — a separator in the middle, and none at all.
* `separator_not_mem` — no piece has a separator.
* `exists_fields_append` — text that is added without a separator goes to the last piece.
* `joinFields_append`, `joinFields_around` — pieces put together in two parts, which meet between two
  pieces or inside one.
-/

namespace DirectorySearch

variable {separator : Char}

lemma fields_append (separator : Char) (text more : List Char) :
    fields separator (text ++ separator :: more) = fields separator text ++ fields separator more := by
  induction text with
  | nil => simp [fields]
  | cons c text ih =>
      rw [List.cons_append, fields, fields, ih]
      split
      · rfl
      · obtain ⟨piece, pieces, hpieces⟩ := List.exists_cons_of_ne_nil (fields_ne_nil separator text)
        rw [hpieces]
        rfl

lemma fields_of_not_mem {text : List Char} (h : separator ∉ text) :
    fields separator text = [text] := by
  induction text with
  | nil => rfl
  | cons c text ih =>
      rw [List.mem_cons, not_or] at h
      rw [fields, if_neg (Ne.symm h.1), ih h.2]

lemma separator_not_mem {text piece : List Char} (h : piece ∈ fields separator text) :
    separator ∉ piece := by
  induction text generalizing piece with
  | nil =>
      rw [List.mem_singleton.mp h]
      exact List.not_mem_nil
  | cons c text ih =>
      obtain ⟨front, rest, hfields⟩ := List.exists_cons_of_ne_nil (fields_ne_nil separator text)
      rw [fields, hfields] at h
      rw [hfields] at ih
      split_ifs at h with hc
      · rcases List.mem_cons.mp h with rfl | h
        · exact List.not_mem_nil
        · exact ih h
      · rcases List.mem_cons.mp h with rfl | h
        · simpa [Ne.symm hc] using ih List.mem_cons_self
        · exact ih (List.mem_cons_of_mem _ h)

/-- Text that is added without a separator goes to the last piece, which is the end of the text. -/
lemma exists_fields_append (separator : Char) (text : List Char) :
    ∃ front last, last <:+ text ∧
      ∀ more, separator ∉ more → fields separator (text ++ more) = front ++ [last ++ more] := by
  by_cases hmem : separator ∈ text.reverse
  · obtain ⟨back, front, htext, hback⟩ := List.eq_append_cons_of_mem hmem
    obtain rfl : text = front.reverse ++ separator :: back.reverse := by
      rw [← List.reverse_reverse text, htext]
      simp
    refine ⟨fields separator front.reverse, back.reverse, ⟨front.reverse ++ [separator], by simp⟩,
      fun more hmore => ?_⟩
    have hlast : separator ∉ back.reverse ++ more := by simp [hback, hmore]
    rw [List.append_assoc, List.cons_append, fields_append, fields_of_not_mem hlast]
  · rw [List.mem_reverse] at hmem
    refine ⟨[], text, List.suffix_refl _, fun more hmore => fields_of_not_mem ?_⟩
    simp [hmem, hmore]

lemma joinFields_append {left right : List (List Char)} (hleft : left ≠ []) (hright : right ≠ []) :
    joinFields separator (left ++ right)
      = joinFields separator left ++ separator :: joinFields separator right := by
  induction left with
  | nil => exact absurd rfl hleft
  | cons piece left ih =>
      obtain ⟨next, right, rfl⟩ := List.exists_cons_of_ne_nil hright
      cases left with
      | nil => rfl
      | cons piece' left =>
          rw [List.cons_append, List.cons_append, joinFields, ← List.cons_append, ih (by simp), joinFields,
            List.append_assoc, List.cons_append]

lemma joinFields_append_cons (left right : List Char) (below : List (List Char)) :
    joinFields separator ((left ++ right) :: below) = left ++ joinFields separator (right :: below) := by
  cases below <;> simp [joinFields]

/-- Two parts that meet inside a piece. -/
lemma joinFields_around (above below : List (List Char)) (left right : List Char) :
    joinFields separator (above ++ (left ++ right) :: below) =
      joinFields separator (above ++ [left]) ++ joinFields separator (right :: below) := by
  cases above with
  | nil => exact joinFields_append_cons left right below
  | cons line above =>
      rw [joinFields_append (by simp) (by simp), joinFields_append (by simp) (by simp),
        joinFields_append_cons]
      simp [joinFields]

end DirectorySearch
