import DirectorySearch.Proofs.Json.Writing
import DirectorySearch.Proofs.Lookup
import DirectorySearch.Query.Compiled

/-!
# Compiled queries survive JSON

A query is written as one object, and it is read from more texts than the one that is written: its
fields may stand in any order, other members may stand between them, and an optional field that the
query does without may be `null`.  This file says which object texts are read as a query.

* `CompiledQuery.Carries` — the members of an object are a query's fields, up to all that.
* **`CompiledQuery.parse?_eq_some_iff`** — an object text is read as exactly the query it carries.
* **`CompiledQuery.json_round_trip`** — the text of a query carries it, and a text that gives a field
  twice, or a required field not at all, carries none.

The reader looks its six fields up by name.  So the proof goes through `Matches`, which says of one name
what a lookup must find; `perm_iff_lookup` turns six lookups into a permutation and back, because the
names are given once each on either side.
-/

namespace DirectorySearch

open Written (IsText)

namespace CompiledQuery

/-! ## Which members carry a query -/

/-- The optional fields that a query does without. -/
def absent (q : CompiledQuery) : List String :=
  fieldNames.filter fun name => (q.fields.lookup name).isNone

/-- The members that have the name of a field, with what they stand for. -/
def known (named : List (String × Written)) : List (String × Option Json) :=
  (named.filter fun member => member.1 ∈ fieldNames).map fun member => (member.1, member.2.value?)

/-- The fields of a query, and `null` for some that it does without. -/
def carrying (q : CompiledQuery) (nulls : List String) : List (String × Option Json) :=
  q.fields.map (fun field => (field.1, some field.2)) ++ nulls.map fun name => (name, some .null)

/-- **Members that carry a query**: those that have the name of a field stand, in some order, for the
fields of the query, and for `null` under some of the names that the query does without. -/
def Carries (named : List (String × Written)) (q : CompiledQuery) : Prop :=
  ∃ nulls : List String, nulls.Sublist q.absent ∧ (known named).Perm (q.carrying nulls)

/-- What is given under a name stands for a field: for `null`, if it is given at all, where the field is
absent. -/
def Matches : Option Written → Option Json → Prop
  | none, field => field = none
  | some w, field => w.value? = some (field.getD .null)

lemma lookup_fields (q : CompiledQuery) :
    q.fields.lookup "filter" = some (.string q.filter) ∧
      q.fields.lookup "includeAttributes" = some (.string q.includeAttributes) ∧
      q.fields.lookup "limit" = q.limit.map (fun n => .integer n.toNat) ∧
      q.fields.lookup "offset" = q.offset.map (fun n => .integer n.toNat) ∧
      q.fields.lookup "searchScope" = q.searchScope.map .string ∧
      q.fields.lookup "cursor" = q.cursor.map .string := by
  obtain ⟨filter, attributes, limit, offset, scope, cursor⟩ := q
  cases limit <;> cases offset <;> cases scope <;> cases cursor <;>
    exact ⟨rfl, rfl, rfl, rfl, rfl, rfl⟩

lemma keys_fields_sublist (q : CompiledQuery) : (q.fields.map Prod.fst).Sublist fieldNames := by
  obtain ⟨filter, attributes, limit, offset, scope, cursor⟩ := q
  cases limit <;> cases offset <;> cases scope <;> cases cursor <;> simp [fields, fieldNames]

lemma keys_fields_nodup (q : CompiledQuery) : (q.fields.map Prod.fst).Nodup :=
  q.keys_fields_sublist.nodup (by decide)

/-! ## Reading the fields -/

/-- A number stands for a number. -/
lemma value?_number {t : NumberText} {v : Json} (h : t.value? = some v) :
    (∃ n, v = .integer n) ∨ ∃ x, v = .float x := by
  have hmap : ∀ {d : Option Binary64}, d.map Json.float = some v →
      (∃ n, v = .integer n) ∨ ∃ x, v = .float x := fun h => by
    obtain ⟨x, -, rfl⟩ := Option.map_eq_some_iff.mp h
    exact Or.inr ⟨x, rfl⟩
  unfold NumberText.value? at h
  dsimp only at h
  split_ifs at h with hwhole hsign hrange
  · exact Or.inl ⟨_, (Option.some.inj h).symm⟩
  · exact Or.inl ⟨_, (Option.some.inj h).symm⟩
  · exact Or.inr ⟨_, (Option.some.inj h).symm⟩
  · split at h
    · exact hmap h
    · split_ifs at h
      · exact Or.inr ⟨_, (Option.some.inj h).symm⟩
      · exact hmap h
      · exact hmap h

lemma readText?_eq_some_iff {w : Written} {s : String} :
    readText? w = some s ↔ w.value? = some (.string s) := by
  cases w with
  | string parts => simp [readText?, Written.value?]
  | number t =>
      have hnot : t.value? ≠ some (.string s) := fun h => by
        rcases value?_number h with ⟨n, h⟩ | ⟨x, h⟩ <;> simp at h
      simp [readText?, Written.value?, hnot]
  | _ => simp [readText?, Written.value?]

lemma readCount?_eq_some_iff {w : Written} {n : UInt32} :
    readCount? w = some n ↔ w.value? = some (.integer n.toNat) := by
  cases w with
  | number t =>
      rw [readCount?, Written.value?]
      constructor
      · intro h
        split at h
        · next m hvalue =>
          split_ifs at h with hlt
          obtain rfl := Option.some.inj h
          rw [hvalue, UInt32.toNat_ofNat_of_lt' hlt]
          rfl
        · simp at h
      · intro h
        rw [h]
        simpa using n.toNat_lt_size
  | _ => simp [readCount?, Written.value?]

lemma value?_eq_null_iff {w : Written} : w.value? = some .null ↔ w = .null := by
  cases w with
  | number t =>
      have hnot : t.value? ≠ some .null := fun h => by
        rcases value?_number h with ⟨n, h⟩ | ⟨x, h⟩ <;> simp at h
      simp [Written.value?, hnot]
  | _ => simp [Written.value?]

section

variable {α : Type} {read? : Written → Option α} {toJson : α → Json}
  (hread : ∀ {w a}, read? w = some a ↔ w.value? = some (toJson a)) (hnull : ∀ a, toJson a ≠ .null)

include hread

lemma bind_eq_some_iff_matches {given : Option Written} {a : α} :
    given.bind read? = some a ↔ Matches given (some (toJson a)) := by
  cases given with
  | none => simp [Matches]
  | some w => simp [Matches, hread]

include hnull

lemma readMissing?_eq_some_iff {given : Option Written} {field : Option α} :
    readMissing? read? given = some field ↔ Matches given (field.map toJson) := by
  cases given with
  | none => cases field <;> simp [readMissing?, Matches]
  | some w =>
      by_cases hw : w = .null
      · subst hw
        cases field with
        | none => simp [readMissing?, readOptional?, Matches, Written.value?]
        | some a => simpa [readMissing?, readOptional?, Matches, Written.value?] using (hnull a).symm
      · have hvalue : readMissing? read? (some w) = (read? w).map some := by
          cases w with
          | null => exact absurd rfl hw
          | _ => rfl
        rw [hvalue]
        cases field with
        | none => simp [Matches, value?_eq_null_iff, hw]
        | some a => simp [Matches, hread]

end

/-- **The reader finds each field by its name.** -/
lemma ofFields?_eq_some_iff {q : CompiledQuery} {named : List (String × Written)} :
    ofFields? (named.lookup "filter") (named.lookup "includeAttributes") (named.lookup "limit")
        (named.lookup "offset") (named.lookup "searchScope") (named.lookup "cursor") = some q
      ↔ ∀ name ∈ fieldNames, Matches (named.lookup name) (q.fields.lookup name) := by
  obtain ⟨hfilter, hattributes, hlimit, hoffset, hscope, hcursor⟩ := q.lookup_fields
  simp only [fieldNames, List.forall_mem_cons, hfilter, hattributes, hlimit, hoffset, hscope, hcursor,
    ← bind_eq_some_iff_matches readText?_eq_some_iff,
    ← readMissing?_eq_some_iff readText?_eq_some_iff (fun _ => Json.noConfusion),
    ← readMissing?_eq_some_iff readCount?_eq_some_iff (fun _ => Json.noConfusion)]
  obtain ⟨filter, attributes, limit, offset, scope, cursor⟩ := q
  simp [ofFields?, Option.bind_eq_some_iff]

/-! ## From lookups to permutations -/

variable {q : CompiledQuery} {named : List (String × Written)}

lemma lookup_known {name : String} (h : name ∈ fieldNames) :
    (known named).lookup name = (named.lookup name).map Written.value? := by
  rw [known, lookup_map_value Written.value?, lookup_filter_key fun name => decide (name ∈ fieldNames)]
  simp [h]

lemma lookup_known_of_not_mem {name : String} (h : name ∉ fieldNames) :
    (known named).lookup name = none := by
  rw [known, lookup_map_value Written.value?, lookup_filter_key fun name => decide (name ∈ fieldNames)]
  simp [h]

lemma count_known (name : String) : ((known named).map Prod.fst).count name
    = if name ∈ fieldNames then (named.filter (·.1 == name)).length else 0 := by
  have hkeys : (known named).map Prod.fst = (named.map Prod.fst).filter (· ∈ fieldNames) := by
    rw [known, List.map_map, List.filter_map]
    rfl
  rw [hkeys]
  split_ifs with hname
  · rw [List.count_filter (by simpa using hname), List.count, List.countP_map, List.countP_eq_length_filter]
    rfl
  · exact List.count_eq_zero.mpr fun hmem => hname (by simpa using (List.mem_filter.mp hmem).2)

lemma fieldsOnce_iff : fieldsOnce named = true ↔ ((known named).map Prod.fst).Nodup := by
  rw [List.nodup_iff_count_le_one, fieldsOnce, List.all_eq_true]
  constructor
  · intro h name
    rw [count_known]
    split_ifs with hname
    · simpa using h name hname
    · exact Nat.zero_le _
  · intro h name hname
    have hcount := h name
    rw [count_known, if_pos hname] at hcount
    simpa using hcount

variable {nulls : List String}

lemma mem_absent {name : String} :
    name ∈ q.absent ↔ name ∈ fieldNames ∧ q.fields.lookup name = none := by
  rw [absent, List.mem_filter, Option.isNone_iff_eq_none]

lemma lookup_carrying (hnulls : nulls.Sublist q.absent) (name : String) :
    (q.carrying nulls).lookup name
      = if name ∈ nulls then some (some .null) else (q.fields.lookup name).map some := by
  rw [carrying, List.lookup_append, lookup_map_value some, lookup_map_const]
  split_ifs with hname
  · rw [(mem_absent.mp (hnulls.subset hname)).2]
    rfl
  · exact Option.or_none

lemma carrying_keys_nodup (hnulls : nulls.Sublist q.absent) :
    ((q.carrying nulls).map Prod.fst).Nodup := by
  have hkeys : (q.carrying nulls).map Prod.fst = q.fields.map Prod.fst ++ nulls := by
    simp [carrying, List.map_map, Function.comp_def]
  rw [hkeys, List.nodup_append']
  refine ⟨q.keys_fields_nodup, (hnulls.nodup (List.Nodup.filter _ (by decide))), ?_⟩
  intro name hfield hnull
  obtain ⟨field, hmem, rfl⟩ := List.mem_map.mp hfield
  have hlookup := (mem_absent.mp (hnulls.subset hnull)).2
  rw [(mem_iff_lookup q.keys_fields_nodup).mp hmem] at hlookup
  exact absurd hlookup (by simp)

/-- **Members carry a query exactly if each field is given at most once and matches.** -/
lemma carries_iff : Carries named q ↔ fieldsOnce named = true ∧
    ∀ name ∈ fieldNames, Matches (named.lookup name) (q.fields.lookup name) := by
  constructor
  · rintro ⟨nulls, hnulls, hperm⟩
    have hnodup := (hperm.map Prod.fst).nodup_iff.mpr (carrying_keys_nodup hnulls)
    refine ⟨fieldsOnce_iff.mpr hnodup, fun name hname => ?_⟩
    have hlookup := (perm_iff_lookup hnodup (carrying_keys_nodup hnulls)).mp hperm name
    rw [lookup_known hname, lookup_carrying hnulls] at hlookup
    split_ifs at hlookup with hnull
    · obtain ⟨w, hw, hvalue⟩ := Option.map_eq_some_iff.mp hlookup
      rw [hw, (mem_absent.mp (hnulls.subset hnull)).2]
      exact hvalue
    · cases hgiven : named.lookup name with
      | none => simpa [hgiven, Matches, eq_comm] using hlookup
      | some w =>
          rw [hgiven, Option.map_some, eq_comm, Option.map_eq_some_iff] at hlookup
          obtain ⟨v, hv, hvalue⟩ := hlookup
          rw [hv]
          exact hvalue.symm
  · rintro ⟨honce, hmatches⟩
    have hnodup := fieldsOnce_iff.mp honce
    refine ⟨q.absent.filter fun name => (named.lookup name).isSome, List.filter_sublist, ?_⟩
    refine (perm_iff_lookup hnodup (carrying_keys_nodup List.filter_sublist)).mpr fun name => ?_
    rw [lookup_carrying List.filter_sublist]
    by_cases hname : name ∈ fieldNames
    · have hmatch := hmatches name hname
      rw [lookup_known hname]
      cases hgiven : named.lookup name with
      | none =>
          rw [hgiven] at hmatch
          simp [hgiven, show q.fields.lookup name = none from hmatch]
      | some w =>
          rw [hgiven] at hmatch
          cases hfield : q.fields.lookup name with
          | none =>
              have hvalue : w.value? = some .null := by simpa [hfield, Matches] using hmatch
              simp [mem_absent, hname, hfield, hgiven, hvalue]
          | some v =>
              have hvalue : w.value? = some v := by simpa [hfield, Matches] using hmatch
              simp [mem_absent, hfield, hvalue]
    · have hfield : q.fields.lookup name = none := by
        rw [List.lookup_eq_none_iff]
        rintro ⟨key, v⟩ hmem
        have hkey := q.keys_fields_sublist.subset (List.mem_map_of_mem hmem)
        have hne : name ≠ key := fun heq => hname (heq ▸ hkey)
        simpa using hne
      rw [lookup_known_of_not_mem hname, hfield, if_neg]
      · rfl
      · exact fun hmem => hname (mem_absent.mp (List.mem_of_mem_filter hmem)).1

/-! ## The texts of a query -/

variable {text : String} {members : List (List StringPart × Written)}

/-- **An object text is read as exactly the query that its members carry.** -/
theorem parse?_eq_some_iff (htext : IsText (.object members) text.toList)
    (hnamed : namedMembers? members = some named) : parse? text = some q ↔ Carries named q := by
  rw [parse?, htext.read?, Option.bind_some, ofWritten?, hnamed, carries_iff, ← ofFields?_eq_some_iff]
  cases honce : fieldsOnce named <;> simp [honce]

lemma spellable_of_mem_fields {field : String × Json} (h : field ∈ q.fields) : Spellable field.2 := by
  have hcount : ∀ n : UInt32, Spellable (.integer n.toNat) := fun n =>
    spellable_natural (Nat.le_trans (Nat.le_of_lt n.toNat_lt_size) (by decide))
  simp only [fields, List.mem_append, List.mem_cons, List.not_mem_nil, or_false, Option.mem_toList,
    Option.map_eq_some_iff] at h
  rcases h with ((((rfl | rfl) | ⟨n, -, rfl⟩) | ⟨n, -, rfl⟩) | ⟨s, -, rfl⟩) | ⟨s, -, rfl⟩
  · exact spellable_string _
  · exact spellable_string _
  · exact hcount n
  · exact hcount n
  · exact spellable_string _
  · exact spellable_string _

lemma exists_namedMembers? {fields : List (String × Json)} (h : List.Forall₂ StandsFor members fields) :
    ∃ named, namedMembers? members = some named ∧
      named.map (fun member => (member.1, member.2.value?))
        = fields.map fun field => (field.1, some field.2) := by
  induction h with
  | nil => exact ⟨[], rfl, rfl⟩
  | @cons member field members fields hmember _ ih =>
      obtain ⟨named, hnamed, hvalues⟩ := ih
      obtain ⟨name, hname, hkey⟩ := Option.map_eq_some_iff.mp hmember.1
      refine ⟨(field.1, member.2) :: named, ?_, ?_⟩
      · rw [namedMembers?, hname, hnamed, ← hkey]
      · rw [List.map_cons, List.map_cons, hvalues, hmember.2.1]

/-- **The text of a query carries it.** -/
lemma exists_isText (q : CompiledQuery) : ∃ members named, IsText (.object members) q.text.toList ∧
    namedMembers? members = some named ∧ Carries named q := by
  obtain ⟨members, htext, hmembers⟩ :=
    @exists_isText_object q.fields fun field => spellable_of_mem_fields
  obtain ⟨named, hnamed, hvalues⟩ := exists_namedMembers? hmembers
  refine ⟨members, named, ?_, hnamed, [], List.nil_sublist _, ?_⟩
  · rwa [text, Json.text, String.toList_ofList]
  · have hknown : named.filter (fun member => member.1 ∈ fieldNames) = named := by
      refine List.filter_eq_self.mpr fun member hmem => decide_eq_true ?_
      have hkeys : named.map Prod.fst = q.fields.map Prod.fst := by
        simpa [List.map_map, Function.comp_def] using congrArg (List.map Prod.fst) hvalues
      exact q.keys_fields_sublist.subset (hkeys ▸ List.mem_map_of_mem hmem)
    rw [known, hknown, hvalues, carrying, List.map_nil, List.append_nil]

lemma parse?_text (q : CompiledQuery) : parse? q.text = some q := by
  obtain ⟨members, named, htext, hnamed, hcarries⟩ := q.exists_isText
  exact (parse?_eq_some_iff htext hnamed).mpr hcarries

/-- A text that gives a field twice is no query. -/
lemma parse?_eq_none_of_repeated (htext : IsText (.object members) text.toList)
    (hnamed : namedMembers? members = some named) {name : String} (hname : name ∈ fieldNames)
    (h : 2 ≤ (named.map Prod.fst).count name) : parse? text = none := by
  refine Option.eq_none_iff_forall_ne_some.mpr fun q hq => ?_
  have honce := (carries_iff.mp ((parse?_eq_some_iff htext hnamed).mp hq)).1
  have hcount := List.nodup_iff_count_le_one.mp (fieldsOnce_iff.mp honce) name
  rw [count_known, if_pos hname] at hcount
  rw [List.count, List.countP_map, List.countP_eq_length_filter] at h
  exact absurd (Nat.le_trans h hcount) (by decide)

/-- A text without a field that every query has is no query. -/
lemma parse?_eq_none_of_missing (htext : IsText (.object members) text.toList)
    (hnamed : namedMembers? members = some named) {name : String}
    (hname : name = "filter" ∨ name = "includeAttributes") (h : name ∉ named.map Prod.fst) :
    parse? text = none := by
  refine Option.eq_none_iff_forall_ne_some.mpr fun q hq => ?_
  have hmatches := (carries_iff.mp ((parse?_eq_some_iff htext hnamed).mp hq)).2
  have hlookup : named.lookup name = none := by
    rw [List.lookup_eq_none_iff]
    intro member hmem
    have hne : name ≠ member.1 := fun heq => h (heq ▸ List.mem_map_of_mem hmem)
    simpa using hne
  obtain ⟨hfilter, hattributes, -⟩ := q.lookup_fields
  have hmatch := hmatches name (by rcases hname with rfl | rfl <;> decide)
  rw [hlookup] at hmatch
  rcases hname with rfl | rfl
  · exact absurd (hfilter.symm.trans hmatch) (by simp)
  · exact absurd (hattributes.symm.trans hmatch) (by simp)

/-- **A query survives JSON**: it is read from its own text and from every object text that carries it,
and from no other.  An object text that gives a field twice, or one of the two required fields not at
all, is no query. -/
theorem json_round_trip (q : CompiledQuery) :
    parse? q.text = some q ∧
      ∀ {text members named}, IsText (.object members) text.toList →
        namedMembers? members = some named →
        (parse? text = some q ↔ Carries named q) ∧
          (∀ name ∈ fieldNames, 2 ≤ (named.map Prod.fst).count name → parse? text = none) ∧
          (("filter" ∉ named.map Prod.fst ∨ "includeAttributes" ∉ named.map Prod.fst) →
            parse? text = none) := by
  refine ⟨q.parse?_text, fun htext hnamed => ⟨parse?_eq_some_iff htext hnamed, ?_, ?_⟩⟩
  · intro name hname hcount
    exact parse?_eq_none_of_repeated htext hnamed hname hcount
  · rintro (hmissing | hmissing)
    · exact parse?_eq_none_of_missing htext hnamed (Or.inl rfl) hmissing
    · exact parse?_eq_none_of_missing htext hnamed (Or.inr rfl) hmissing

/-- A text with an unknown member, an absent field given as `null` and a letter written by its number;
and one that gives the filter twice. -/
theorem json_round_trip_of_noise :
    parse? "\x7b\"x\":[null],\"includeAttributes\":\"uid\",\"limit\":null ,\"filter\":\"\\u0061\"\x7d"
        = some { filter := "a", includeAttributes := "uid" } ∧
      parse? "\x7b\"filter\":\"a\",\"includeAttributes\":\"\",\"filter\":null\x7d" = none := by
  have hnone : Written.Blanks [] := by simp [Written.Blanks]
  have hspace : Written.Blanks [' '] := by simp [Written.Blanks, Written.isBlank]
  have hbare : ∀ s : List Char, (∀ c ∈ s, 0x20 ≤ c.toNat ∧ c ≠ '"' ∧ c ≠ '\\') →
      Written.SpellsParts (s.map .char) s := by
    intro s hs
    induction s with
    | nil => exact .nil
    | cons c s ih =>
        obtain ⟨hc, hq, hb⟩ := hs c List.mem_cons_self
        exact .bare hc hq hb (ih fun d hd => hs d (List.mem_cons_of_mem _ hd))
  have hunit : Written.SpellsParts [.unit 0x61] ['\\', 'u', '0', '0', '6', '1'] := .unit rfl .nil
  have hfilter := hbare "filter".toList (by simp)
  have hattributes := hbare "includeAttributes".toList (by simp)
  have hnoise := Written.SpellsMembers.cons hnone (hbare ['x'] (by simp)) hnone hnone
    (.array (.last hnone .nullWord hnone)) hnone
    (.cons hnone hattributes hnone hnone (.string (hbare "uid".toList (by simp))) hnone
      (.cons hnone (hbare "limit".toList (by simp)) hnone hnone .nullWord hspace
        (.last hnone hfilter hnone hnone (.string hunit) hnone)))
  have hrepeated := Written.SpellsMembers.cons hnone hfilter hnone hnone
    (.string (hbare ['a'] (by simp))) hnone
    (.cons hnone hattributes hnone hnone (.string .nil) hnone
      (.last hnone hfilter hnone hnone .nullWord hnone))
  have hnoisy : IsText _ (String.toList
      "\x7b\"x\":[null],\"includeAttributes\":\"uid\",\"limit\":null ,\"filter\":\"\\u0061\"\x7d") :=
    ⟨[], _, [], hnone, .object hnoise, hnone, by decide⟩
  have htwice : IsText _ (String.toList
      "\x7b\"filter\":\"a\",\"includeAttributes\":\"\",\"filter\":null\x7d") :=
    ⟨[], _, [], hnone, .object hrepeated, hnone, by decide⟩
  have hcarries : Carries
      [("x", .array [.null]), ("includeAttributes", .string ("uid".toList.map .char)), ("limit", .null),
        ("filter", .string [.unit 0x61])]
      { filter := "a", includeAttributes := "uid" } := by
    refine ⟨["limit"], by decide, ?_⟩
    exact @List.perm_append_comm _
      [("includeAttributes", some (Json.string "uid")), ("limit", some Json.null)]
      [("filter", some (Json.string "a"))]
  constructor
  · exact ((json_round_trip _).2 hnoisy (by rfl)).1.mpr hcarries
  · exact (@(json_round_trip default).2 _ _ [("filter", _), ("includeAttributes", _), ("filter", _)]
      htwice rfl).2.1 "filter" (by decide) (by decide)

end CompiledQuery

end DirectorySearch
