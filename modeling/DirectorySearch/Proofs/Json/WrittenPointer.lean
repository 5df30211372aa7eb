import DirectorySearch.Json.Pointer
import DirectorySearch.Proofs.Json.KeptText
import DirectorySearch.Proofs.Lookup

/-!
# Pointers into a text

A pointer that leads to a value inside a JSON value also leads to a place in the text that the value was
read from.  An object of the text may name a member more than once; the last one counts.

* `Written.pointer?` — the place in a text that a pointer leads to.
* `lookup_memberValues?` — the members of an object that is read are the last ones of the text.
* **`Written.pointer?_value?`** — what stands at the place is what the pointer leads to in the value.
* `IsText.exists_infix` — its characters are a part of the text.
-/

namespace DirectorySearch

lemma lookup_insertMember {α : Type} (key name : String) (value : α) (members : List (String × α)) :
    (insertMember key value members).lookup name
      = if name = key then some value else members.lookup name := by
  induction members with
  | nil => rw [insertMember, lookup_cons_ite]
  | cons member members ih =>
      obtain ⟨k, v⟩ := member
      rw [insertMember]
      by_cases hlt : key < k
      · rw [if_pos hlt, lookup_cons_ite]
      · rw [if_neg hlt]
        by_cases heq : key = k
        · subst heq
          by_cases hname : name = key <;> simp [lookup_cons_ite, hname]
        · rw [if_neg heq, lookup_cons_ite, ih, lookup_cons_ite]
          by_cases hname : name = k
          · subst hname
            simp [Ne.symm heq]
          · simp [hname]

namespace Written

/-! ## Places in a text -/

/-- The last member of a name. -/
def memberNamed? (name : List Char) : List (List StringPart × Written) → Option Written
  | [] => none
  | (key, w) :: members =>
    (memberNamed? name members).or (if stringText? key = some name then some w else none)

/-- The place at the end of a path. -/
def descend? : Written → List (List Char) → Option Written
  | w, [] => some w
  | .object members, step :: steps => (memberNamed? step members).bind fun w => w.descend? steps
  | .array items, step :: steps => ((arrayIndex? step).bind (items[·]?)).bind fun w => w.descend? steps
  | _, _ :: _ => none

/-- **The place at a pointer.** -/
def pointer? (w : Written) (pointer : String) : Option Written :=
  match pointer.toList with
  | [] => some w
  | '/' :: steps => w.descend? ((fields '/' steps).map unescapeStep)
  | _ => none

/-! ## Members and items -/

/-- **The members of an object that is read** are the last ones of their names. -/
lemma lookup_memberValues? {members : List (List StringPart × Written)}
    {sorted result : List (String × Json)} (h : memberValues? members sorted = some result)
    (name : List Char) :
    match memberNamed? name members with
    | some w => ∃ j, w.value? = some j ∧ result.lookup (String.ofList name) = some j
    | none => result.lookup (String.ofList name) = sorted.lookup (String.ofList name) := by
  induction members generalizing sorted with
  | nil =>
      cases h
      rfl
  | cons member members ih =>
      obtain ⟨key, w⟩ := member
      rw [memberValues?] at h
      split at h
      · next k j hk hj =>
        have hrest := ih h
        rw [lookup_insertMember] at hrest
        rw [memberNamed?, hk]
        cases hlater : memberNamed? name members with
        | some w' => simpa [hlater] using hrest
        | none =>
            by_cases hname : k = name
            · subst hname
              simpa [hlater, hj] using hrest
            · have hne : String.ofList name ≠ String.ofList k := fun h =>
                hname (String.ofList_inj.mp h).symm
              simpa [hlater, hname, hne] using hrest
      · cases h

/-- The items of an array that is read are those of the text. -/
lemma getElem?_itemValues? {items : List Written} {values : List Json}
    (h : itemValues? items = some values) (n : Nat) : items[n]?.map value? = values[n]?.map some := by
  induction items generalizing values n with
  | nil =>
      cases h
      rfl
  | cons item items ih =>
      rw [itemValues?] at h
      split at h
      · next j js hj hjs =>
        cases h
        cases n with
        | zero => simp [hj]
        | succ n => simpa using ih hjs n
      · cases h

/-! ## The law -/

lemma descend?_value? {w : Written} {j : Json} (h : w.value? = some j) (steps : List (List Char)) :
    (w.descend? steps).map value? = (j.descend? steps).map some := by
  induction steps generalizing w j with
  | nil => simp [descend?, Json.descend?, h]
  | cons step steps ih =>
      cases w with
      | null =>
          cases h
          rfl
      | bool b =>
          cases h
          rfl
      | number t =>
          rcases NumberText.value?_cases h with ⟨-, n, rfl⟩ | ⟨x, rfl⟩ <;> rfl
      | string parts =>
          obtain ⟨s, -, rfl⟩ := Option.map_eq_some_iff.mp h
          rfl
      | array items =>
          rw [value?] at h
          obtain ⟨values, hvalues, rfl⟩ := Option.map_eq_some_iff.mp h
          rw [descend?, Json.descend?]
          cases hindex : arrayIndex? step with
          | none => rfl
          | some n =>
              have hitem := getElem?_itemValues? hvalues n
              simp only [Option.bind_some]
              cases hj : values[n]? with
              | none =>
                  rw [hj, Option.map_none, Option.map_eq_none_iff] at hitem
                  rw [hitem]
                  rfl
              | some j =>
                  rw [hj] at hitem
                  obtain ⟨w, hw, hvalue⟩ := Option.map_eq_some_iff.mp hitem
                  rw [hw]
                  exact ih hvalue
      | object members =>
          rw [value?] at h
          obtain ⟨result, hresult, rfl⟩ := Option.map_eq_some_iff.mp h
          have hmember := lookup_memberValues? hresult step
          rw [descend?, Json.descend?]
          split at hmember
          · next w hw =>
            obtain ⟨j, hj, hlookup⟩ := hmember
            rw [hw, hlookup]
            exact ih hj
          · next hnone =>
            rw [hnone, hmember]
            rfl

/-- **What stands at the place of a pointer is what the pointer leads to** in the value of the text. -/
theorem pointer?_value? {w : Written} {j : Json} (h : w.value? = some j) (pointer : String) :
    (w.pointer? pointer).map value? = (j.pointer? pointer).map some := by
  by_cases hnil : pointer.toList = []
  · simp [pointer?, Json.pointer?, hnil, h]
  by_cases hslash : ∃ steps, pointer.toList = '/' :: steps
  · obtain ⟨steps, hsteps⟩ := hslash
    rw [pointer?, Json.pointer?, hsteps]
    exact descend?_value? h _
  · have hwritten : w.pointer? pointer = none := by
      unfold pointer?
      split
      · next heq => exact absurd heq hnil
      · next heq => exact absurd ⟨_, heq⟩ hslash
      · rfl
    have hvalue : j.pointer? pointer = none := by
      unfold Json.pointer?
      split
      · next heq => exact absurd heq hnil
      · next heq => exact absurd ⟨_, heq⟩ hslash
      · rfl
    rw [hwritten, hvalue]
    rfl

/-! ## The characters at a place -/

lemma exists_mem_of_memberNamed? {name : List Char} {members : List (List StringPart × Written)}
    {w : Written} (h : memberNamed? name members = some w) : ∃ key, (key, w) ∈ members := by
  induction members with
  | nil => cases h
  | cons member members ih =>
      obtain ⟨key, w'⟩ := member
      rw [memberNamed?] at h
      rcases Option.or_eq_some_iff.mp h with hlater | ⟨-, hhere⟩
      · obtain ⟨key, hmem⟩ := ih hlater
        exact ⟨key, List.mem_cons_of_mem _ hmem⟩
      · split_ifs at hhere
        cases hhere
        exact ⟨key, List.mem_cons_self⟩

/-- The characters of an item are among those of the items. -/
lemma SpellsItems.exists_infix {items : List Written} {text : List Char} (h : SpellsItems items text)
    {item : Written} (hitem : item ∈ items) : ∃ spelled, Spells item spelled ∧ spelled <:+: text := by
  induction items generalizing text with
  | nil => cases hitem
  | cons first items ih =>
      cases h with
      | @last _ gap spelled after _ hfirst _ =>
          obtain rfl := List.mem_singleton.mp hitem
          exact ⟨spelled, hfirst, gap, after, List.append_assoc _ _ _⟩
      | @cons _ _ gap spelled after rest _ hfirst _ hitems =>
          rcases List.mem_cons.mp hitem with rfl | hmem
          · exact ⟨spelled, hfirst, gap, _, List.append_assoc _ _ _⟩
          · obtain ⟨more, hmore, hsub⟩ := ih hitems hmem
            have hrest : rest <:+ gap ++ (spelled ++ (after ++ ',' :: rest)) :=
              ⟨gap ++ (spelled ++ (after ++ [','])), by simp⟩
            exact ⟨more, hmore, hsub.trans hrest.isInfix⟩

lemma SpellsMembers.exists_infix {members : List (List StringPart × Written)} {text : List Char}
    (h : SpellsMembers members text) {key : List StringPart} {w : Written} (hw : (key, w) ∈ members) :
    ∃ spelled, Spells w spelled ∧ spelled <:+: text := by
  induction members generalizing text with
  | nil => cases hw
  | cons first members ih =>
      cases h with
      | @last _ _ gap name behind before spelled after _ _ _ _ hfirst _ =>
          cases List.mem_singleton.mp hw
          exact ⟨spelled, hfirst, gap ++ '"' :: (name ++ '"' :: (behind ++ ':' :: before)), after,
            by simp⟩
      | @cons _ _ _ gap name behind before spelled after rest _ _ _ _ hfirst _ hmembers =>
          rcases List.mem_cons.mp hw with heq | hmem
          · cases heq
            exact ⟨spelled, hfirst, gap ++ '"' :: (name ++ '"' :: (behind ++ ':' :: before)),
              after ++ ',' :: rest, by simp⟩
          · obtain ⟨more, hmore, hsub⟩ := ih hmembers hmem
            have hrest : rest <:+ gap ++ '"' :: (name ++ '"' :: (behind ++ ':' ::
                (before ++ (spelled ++ (after ++ ',' :: rest))))) :=
              ⟨gap ++ '"' :: (name ++ '"' :: (behind ++ ':' :: (before ++ (spelled ++ (after ++ [',']))))),
                by simp⟩
            exact ⟨more, hmore, hsub.trans hrest.isInfix⟩

lemma Spells.exists_infix {w token : Written} {text : List Char} (h : Spells w text)
    {steps : List (List Char)} (htoken : w.descend? steps = some token) :
    ∃ spelled, Spells token spelled ∧ spelled <:+: text := by
  induction steps generalizing w text with
  | nil =>
      cases htoken
      exact ⟨text, h, List.infix_rfl⟩
  | cons step steps ih =>
      cases h with
      | array hitems =>
          obtain ⟨item, hitem, htoken⟩ := Option.bind_eq_some_iff.mp htoken
          obtain ⟨n, -, hn⟩ := Option.bind_eq_some_iff.mp hitem
          obtain ⟨more, hmore, hsub⟩ := hitems.exists_infix (List.mem_of_getElem? hn)
          obtain ⟨spelled, hspelled, hsub'⟩ := ih hmore htoken
          exact ⟨spelled, hspelled, (hsub'.trans hsub).trans ⟨['['], [']'], by simp⟩⟩
      | object hmembers =>
          obtain ⟨value, hvalue, htoken⟩ := Option.bind_eq_some_iff.mp htoken
          obtain ⟨key, hmem⟩ := exists_mem_of_memberNamed? hvalue
          obtain ⟨more, hmore, hsub⟩ := hmembers.exists_infix hmem
          obtain ⟨spelled, hspelled, hsub'⟩ := ih hmore htoken
          exact ⟨spelled, hspelled, (hsub'.trans hsub).trans ⟨['\x7b'], ['\x7d'], by simp⟩⟩
      | emptyArray hgap =>
          rw [descend?] at htoken
          cases hindex : arrayIndex? step <;> simp [hindex] at htoken
      | _ => cases htoken

/-- **What stands at the place of a pointer is spelled by a part of the text.** -/
theorem IsText.exists_infix {w token : Written} {text : List Char} (h : IsText w text)
    {pointer : String} (htoken : w.pointer? pointer = some token) :
    ∃ spelled, Spells token spelled ∧ spelled <:+: text := by
  obtain ⟨gap, spelled, after, -, hspelled, -, rfl⟩ := h
  have hwhole : spelled <:+: gap ++ (spelled ++ after) := ⟨gap, after, List.append_assoc _ _ _⟩
  unfold pointer? at htoken
  split at htoken
  · cases htoken
    exact ⟨spelled, hspelled, hwhole⟩
  · obtain ⟨more, hmore, hsub⟩ := hspelled.exists_infix htoken
    exact ⟨more, hmore, hsub.trans hwhole⟩
  · cases htoken

end Written

end DirectorySearch
