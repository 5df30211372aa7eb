/-!
# Fields of a separated text

Texts are handled as lists of characters wherever they are taken apart.  This module holds the one
splitter the library uses: the pieces between separators, of which there is always one more than
there are separators.

* `fields` — the pieces.
* `joinFields` — the pieces put together again.
* `join_fields` — nothing is lost: joining the pieces gives the text back.
-/

namespace DirectorySearch

/-- The pieces of a text between the occurrences of a separator. -/
def fields (separator : Char) : List Char → List (List Char)
  | [] => [[]]
  | c :: rest =>
    if c = separator then [] :: fields separator rest
    else match fields separator rest with
      | [] => [[c]]
      | piece :: pieces => (c :: piece) :: pieces

/-- Pieces put together, a separator between each two. -/
def joinFields (separator : Char) : List (List Char) → List Char
  | [] => []
  | [piece] => piece
  | piece :: next :: pieces => piece ++ separator :: joinFields separator (next :: pieces)

theorem fields_ne_nil (separator : Char) (text : List Char) : fields separator text ≠ [] := by
  cases text with
  | nil => simp [fields]
  | cons c rest =>
    unfold fields
    split
    · simp
    · split <;> simp

theorem joinFields_cons_cons (separator c : Char) (piece : List Char) (pieces : List (List Char)) :
    joinFields separator ((c :: piece) :: pieces) = c :: joinFields separator (piece :: pieces) := by
  cases pieces <;> simp [joinFields]

/-- Splitting loses nothing. -/
theorem join_fields (separator : Char) (text : List Char) :
    joinFields separator (fields separator text) = text := by
  induction text with
  | nil => rfl
  | cons c rest ih =>
    unfold fields
    split
    · next h =>
      subst h
      cases hf : fields c rest with
      | nil => exact absurd hf (fields_ne_nil c rest)
      | cons piece pieces => simp [joinFields, ← hf, ih]
    · cases hf : fields separator rest with
      | nil => exact absurd hf (fields_ne_nil separator rest)
      | cons piece pieces =>
        rw [hf] at ih
        simp [joinFields_cons_cons, ih]

end DirectorySearch
