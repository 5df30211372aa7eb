import Mathlib.Data.List.Nodup
import Mathlib.Data.List.Perm.Basic
import Mathlib.Tactic.Common

/-!
# Looking up in lists of pairs

Objects, tables and groups of settings are lists of pairs, and what is read of them is looked up by key.

* `lookup_map_value`, `lookup_filter_key`, `lookup_replace` — a lookup after something was done to the
  list.
* **`perm_iff_lookup`** — lists that give each key once are permutations of each other exactly if all
  lookups agree.
-/

namespace DirectorySearch

variable {α β : Type}

lemma lookup_cons_ite (k key : String) (a : α) (l : List (String × α)) :
    ((k, a) :: l).lookup key = if key = k then some a else l.lookup key := by
  rw [List.lookup_cons]
  split
  · next h => rw [if_pos (eq_of_beq h)]
  · next h => rw [if_neg (by simpa using h)]

lemma lookup_map_value (f : α → β) (l : List (String × α)) (key : String) :
    (l.map fun member => (member.1, f member.2)).lookup key = (l.lookup key).map f := by
  induction l with
  | nil => rfl
  | cons member l ih =>
      rw [List.map_cons, List.lookup_cons, List.lookup_cons, ih]
      split <;> rfl

lemma lookup_map_const (a : α) (names : List String) (key : String) :
    (names.map fun name => (name, a)).lookup key = if key ∈ names then some a else none := by
  induction names with
  | nil => rfl
  | cons name names ih =>
      rw [List.map_cons, lookup_cons_ite, ih]
      by_cases hkey : key = name <;> simp [hkey]

lemma lookup_filter_key (p : String → Bool) (l : List (String × α)) (key : String) :
    (l.filter fun member => p member.1).lookup key = if p key then l.lookup key else none := by
  induction l with
  | nil => simp
  | cons member l ih =>
      obtain ⟨k, a⟩ := member
      by_cases hkey : key = k
      · subst hkey
        cases hp : p key <;> simp [hp, ih]
      · cases hp : p k <;> simp [hp, ih, lookup_cons_ite, hkey]

/-- The members of one key replaced. -/
lemma lookup_replace (k key : String) (a : α) (l : List (String × α)) :
    (l.map fun member => if member.1 = k then (k, a) else member).lookup key
      = if key = k then (l.lookup k).map fun _ => a else l.lookup key := by
  induction l with
  | nil => simp
  | cons member l ih =>
      obtain ⟨k', b⟩ := member
      rw [List.map_cons]
      by_cases hk : k' = k
      · subst hk
        rw [if_pos rfl, lookup_cons_ite, ih]
        by_cases hkey : key = k' <;> simp [hkey, lookup_cons_ite]
      · rw [if_neg hk, lookup_cons_ite, ih, lookup_cons_ite, lookup_cons_ite, if_neg (Ne.symm hk)]
        by_cases hkey : key = k'
        · subst hkey
          rw [if_pos rfl, if_neg hk, if_pos rfl]
        · rw [if_neg hkey, if_neg hkey]

lemma mem_iff_lookup {l : List (String × α)} (h : (l.map Prod.fst).Nodup) {key : String} {a : α} :
    (key, a) ∈ l ↔ l.lookup key = some a := by
  induction l with
  | nil => simp
  | cons member l ih =>
      obtain ⟨k, b⟩ := member
      simp only [List.map_cons, List.nodup_cons] at h
      rw [lookup_cons_ite]
      by_cases hkey : key = k
      · subst hkey
        have hnot : (key, a) ∉ l := fun hmem => h.1 (List.mem_map_of_mem hmem)
        simp [hnot, eq_comm]
      · simp [hkey, ih h.2]

/-- **Lists that give each key once are permutations if all lookups agree.** -/
lemma perm_iff_lookup {l l' : List (String × α)} (h : (l.map Prod.fst).Nodup)
    (h' : (l'.map Prod.fst).Nodup) : l.Perm l' ↔ ∀ key, l.lookup key = l'.lookup key := by
  rw [List.perm_ext_iff_of_nodup h.of_map h'.of_map]
  constructor
  · intro hmem key
    refine Option.ext fun a => ?_
    rw [← mem_iff_lookup h, ← mem_iff_lookup h', hmem]
  · rintro hlookup ⟨key, a⟩
    rw [mem_iff_lookup h, mem_iff_lookup h', hlookup]

end DirectorySearch
