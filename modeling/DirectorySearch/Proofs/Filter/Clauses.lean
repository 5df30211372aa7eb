import DirectorySearch.Filter.Dialect
import Mathlib.Tactic.Common

/-!
# How clauses stand in a filter

A filter is glued together from clauses, each with its connector in front, and cut at its two ends
afterwards.  This file says where the clauses are in the text that comes out, whatever text they are.

* `connectedText` — clauses with their connectors, each with a space in front.
* **`joinClauses_cons`** — a filter is its first clause followed by the others with their connectors:
  what is cut off is the first connector and nothing else.
* `cutParentheses_append` — what is cut off a text in parentheses is the parentheses.
-/

namespace DirectorySearch

/-- Clauses with their connectors, each with a space in front. -/
def connectedText (clauses : List (Connector × String)) : List Char :=
  clauses.flatMap fun clause => ' ' :: (clause.1.keyword.toList ++ ' ' :: clause.2.toList)

@[simp] theorem connectedText_nil : connectedText [] = [] := rfl

@[simp] theorem connectedText_cons (c : Connector) (t : String)
    (clauses : List (Connector × String)) :
    connectedText ((c, t) :: clauses)
      = ' ' :: (c.keyword.toList ++ ' ' :: (t.toList ++ connectedText clauses)) := by
  simp [connectedText]

lemma length_le_connectedText (clauses : List (Connector × String)) :
    clauses.length ≤ (connectedText clauses).length := by
  induction clauses with
  | nil => exact Nat.le_refl _
  | cons clause clauses ih =>
      obtain ⟨c, t⟩ := clause
      simp only [connectedText_cons, List.length_cons, List.length_append]
      omega

/-! ## The first connector -/

lemma cutKeyword?_append (keyword rest : List Char) :
    cutKeyword? keyword (keyword ++ ' ' :: rest) = some rest := by
  simp [cutKeyword?, sameIgnoringCase_refl]

lemma cutConnector_append (c : Connector) (rest : List Char) :
    cutConnector (c.keyword.toList ++ ' ' :: rest) = rest := by
  cases c with
  | both => rw [cutConnector, cutKeyword?_append]
  | either =>
      have hother : cutKeyword? Connector.both.keyword.toList
          (Connector.either.keyword.toList ++ ' ' :: rest) = none := by
        -- the third character is the space, where the other keyword has a letter
        cases rest with
        | nil => rfl
        | cons d rest =>
            simp only [cutKeyword?]
            split
            · exact if_neg (by simp [sameIgnoringCase, foldCase, Connector.keyword])
            · rfl
      rw [cutConnector, hother, cutKeyword?_append]

lemma glueClauses_cons (c : Connector) (t : String) (clauses : List (Connector × String)) :
    (glueClauses ((c, t) :: clauses)).toList
      = c.keyword.toList ++ ' ' :: (t.toList ++ connectedText clauses) := by
  induction clauses generalizing c t with
  | nil => simp [glueClauses]
  | cons clause clauses ih =>
      obtain ⟨d, u⟩ := clause
      have hglue : glueClauses ((c, t) :: (d, u) :: clauses)
          = c.keyword ++ " " ++ t ++ " " ++ glueClauses ((d, u) :: clauses) := by
        simp [glueClauses, String.append_assoc]
      rw [hglue, String.toList_append, ih]
      simp

/-- **A filter is its first clause followed by the others with their connectors.** -/
theorem joinClauses_cons (c : Connector) (t : String) (clauses : List (Connector × String)) :
    (joinClauses ((c, t) :: clauses)).toList = t.toList ++ connectedText clauses := by
  rw [joinClauses, String.toList_ofList, glueClauses_cons, cutConnector_append]

lemma length_le_connectedText_of_mem {clauses : List (Connector × String)} {c : Connector}
    {t : String} (h : (c, t) ∈ clauses) : t.toList.length ≤ (connectedText clauses).length := by
  induction clauses with
  | nil => simp at h
  | cons clause clauses ih =>
      obtain ⟨d, u⟩ := clause
      simp only [connectedText_cons, List.length_cons, List.length_append]
      rcases List.mem_cons.mp h with h | h
      · rw [(Prod.mk.inj h).2]
        omega
      · have := ih h
        omega

/-- No clause is longer than the filter. -/
lemma length_le_joinClauses {clauses : List (Connector × String)} {c : Connector} {t : String}
    (h : (c, t) ∈ clauses) : t.toList.length ≤ (joinClauses clauses).toList.length := by
  cases clauses with
  | nil => simp at h
  | cons clause clauses =>
      obtain ⟨d, u⟩ := clause
      rw [joinClauses_cons, List.length_append]
      rcases List.mem_cons.mp h with h | h
      · rw [(Prod.mk.inj h).2]
        exact Nat.le_add_right _ _
      · have := length_le_connectedText_of_mem h
        omega

/-! ## The outer parentheses -/

lemma finishFilter_of_not_lone {conditions : List Condition} {clauses : List (Connector × String)}
    (hne : conditions ≠ []) (hlone : ¬ isLoneMembership conditions = true) :
    finishFilter conditions clauses = joinClauses clauses := by
  simp [finishFilter, hne, hlone]

lemma cutParentheses_append (text : List Char) : cutParentheses ('(' :: (text ++ [')'])) = text := by
  simp [cutParentheses]

end DirectorySearch
