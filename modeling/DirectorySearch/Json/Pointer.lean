import DirectorySearch.Json.Basic
import DirectorySearch.Text.Fields

/-!
# JSON pointers

A pointer names one value inside another by the path to it: `/a/0` is the first item of the member
`a`.  In a step `~1` stands for a slash and `~0` for a tilde.

* `unescapeStep` — a step as it is meant.
* `arrayIndex?` — the steps that can name an item: plain decimal numbers.
* **`Json.pointer?`** — the value at a pointer, if there is one.
-/

namespace DirectorySearch

/-- A step with its escapes undone. -/
def unescapeStep : List Char → List Char
  | '~' :: '0' :: rest => '~' :: unescapeStep rest
  | '~' :: '1' :: rest => '/' :: unescapeStep rest
  | c :: rest => c :: unescapeStep rest
  | [] => []

/-- The item that a step names: digits, without a zero in front of others. -/
def arrayIndex? (step : List Char) : Option Nat :=
  if step.isEmpty || !step.all Char.isDigit then none
  else if step.head? = some '0' && step.length ≠ 1 then none
  else some (step.foldl (fun n c => n * 10 + (c.toNat - '0'.toNat)) 0)

namespace Json

/-- The value at the end of a path. -/
def descend? : Json → List (List Char) → Option Json
  | j, [] => some j
  | .object members, step :: steps =>
    match members.lookup (String.ofList step) with
    | some j => descend? j steps
    | none => none
  | .array items, step :: steps =>
    match (arrayIndex? step).bind (items[·]?) with
    | some j => descend? j steps
    | none => none
  | _, _ :: _ => none

/-- **The value at a pointer.**  The empty pointer names the whole value; every other pointer starts
with a slash. -/
def pointer? (j : Json) (pointer : String) : Option Json :=
  match pointer.toList with
  | [] => some j
  | '/' :: steps => j.descend? ((fields '/' steps).map unescapeStep)
  | _ => none

/-- Where no step leads anywhere, only the empty pointer names a value. -/
theorem pointer?_eq_none {j : Json} {pointer : String} (h : pointer ≠ "")
    (hj : ∀ step steps, j.descend? (step :: steps) = none) : j.pointer? pointer = none := by
  unfold pointer?
  split
  · next hnil => exact absurd (String.toList_inj.1 hnil) h
  · next steps _ =>
    cases hfields : DirectorySearch.fields '/' steps with
    | nil => exact absurd hfields (fields_ne_nil _ _)
    | cons step rest => exact hj _ _
  · rfl

theorem pointer?_emptyArray {pointer : String} (h : pointer ≠ "") :
    (array []).pointer? pointer = none := by
  refine pointer?_eq_none h fun step steps => ?_
  have hitem : (arrayIndex? step).bind (([] : List Json)[·]?) = none := by
    cases arrayIndex? step <;> simp
  rw [descend?, hitem]

theorem pointer?_null {pointer : String} (h : pointer ≠ "") : null.pointer? pointer = none :=
  pointer?_eq_none h fun _ _ => by simp [descend?]

end Json

end DirectorySearch
