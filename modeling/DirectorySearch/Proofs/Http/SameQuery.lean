import DirectorySearch.Http.Request
import DirectorySearch.Proofs.Http.Form
import DirectorySearch.Proofs.Query.JsonRoundTrip

/-!
# Both methods carry the same query

A query is sent as form fields behind the query of a URL, or as a JSON body.  The two are written by
different rules; this file shows that they say the same.

* `CompiledQuery.pairs` — the fields of a query as they are given in a form, numbers in decimal.
* `CompiledQuery.ofPairs?` — the query that form fields give.
* `SameQuery` — what the requests of the two methods have to do with each other and with the query.
* **`Endpoint.get_and_post_same_query`** — for every query, and for every URL of the web.
-/

namespace DirectorySearch

namespace CompiledQuery

/-! ## A query as form fields -/

/-- The fields that are present, by name and in order, with their texts. -/
def pairs (q : CompiledQuery) : List (String × String) :=
  [("filter", q.filter), ("includeAttributes", q.includeAttributes)]
    ++ (q.limit.map fun n => ("limit", toString n.toNat)).toList
    ++ (q.offset.map fun n => ("offset", toString n.toNat)).toList
    ++ (q.searchScope.map fun s => ("searchScope", s)).toList
    ++ (q.cursor.map fun s => ("cursor", s)).toList

/-- A decimal number that fits 32 bits. -/
def readDecimal? (s : String) : Option UInt32 :=
  let n := Nat.ofDigitChars 10 s.toList 0
  if s.toList ≠ [] ∧ s.toList.all Char.isDigit ∧ n < UInt32.size then some n.toUInt32 else none

/-- **The query that form fields give.** -/
def ofPairs? (pairs : List (String × String)) : Option CompiledQuery := do
  return {
    filter := ← pairs.lookup "filter"
    includeAttributes := ← pairs.lookup "includeAttributes"
    limit := ← (pairs.lookup "limit").mapM readDecimal?
    offset := ← (pairs.lookup "offset").mapM readDecimal?
    searchScope := pairs.lookup "searchScope"
    cursor := pairs.lookup "cursor" }

lemma map_formPair_fields (q : CompiledQuery) : q.fields.map formPair = q.pairs := by
  obtain ⟨filter, attributes, limit, offset, scope, cursor⟩ := q
  cases limit <;> cases offset <;> cases scope <;> cases cursor <;> rfl

lemma readDecimal?_repr (n : UInt32) : readDecimal? n.toNat.repr = some n := by
  have htext : n.toNat.repr.toList = decimalDigits n.toNat := String.toList_ofList
  have hvalue : Nat.ofDigitChars 10 (decimalDigits n.toNat) 0 = n.toNat :=
    Nat.ofDigitChars_ten_toDigits
  have hne : decimalDigits n.toNat ≠ [] := Nat.toDigits_ne_nil
  have hdigits : (decimalDigits n.toNat).all Char.isDigit = true :=
    List.all_eq_true.mpr fun _ hc => isDigit_of_mem_decimalDigits hc
  rw [readDecimal?, htext, hvalue]
  simp [hne, hdigits, n.toNat_lt_size]

/-- **Form fields give back the query they were made of.** -/
theorem ofPairs?_pairs (q : CompiledQuery) : ofPairs? q.pairs = some q := by
  obtain ⟨filter, attributes, limit, offset, scope, cursor⟩ := q
  cases limit <;> cases offset <;> cases scope <;> cases cursor <;>
    simp [ofPairs?, pairs, readDecimal?_repr, List.lookup_cons]

end CompiledQuery

/-! ## The two requests -/

/-- The query of a URL, ready to have fields added to it. -/
def Url.ownQuery (u : Url) : List Char :=
  match u.query with
  | none | some "" => []
  | some own => own.toList ++ ['&']

lemma Url.withForm_eq (u : Url) (pairs : List (String × String)) : u.withForm pairs
    = { u with query := some (String.ofList (u.ownQuery ++ joinFields '&' (formFields pairs))) } := by
  obtain ⟨scheme, username, password, host, port, path, query, fragment⟩ := u
  unfold withForm ownQuery
  dsimp only
  split <;> simp

lemma Url.readForm_ownQuery (u : Url) (added : List Char) :
    readForm (u.ownQuery ++ added) = readForm (u.query.getD "").toList ++ readForm added := by
  unfold ownQuery
  split
  · next h => rw [h]; rfl
  · next h => rw [h]; rfl
  · next own _ h =>
    rw [h, List.append_assoc, List.singleton_append, readForm_append]
    rfl

/-- **How two requests carry one query**, the first added to the URL that the second goes to. -/
structure SameQuery (q : CompiledQuery) (get post : Request) : Prop where
  methods : get.method = .get ∧ post.method = .post
  authorization : get.authorization = post.authorization
  /-- The first goes to the URL of the second, and adds the fields to its query. -/
  added : ∃ added, get.url = { post.url with query := some (String.ofList (post.url.ownQuery ++ added)) } ∧
    readForm added = q.pairs ∧ CompiledQuery.ofPairs? (readForm added) = some q
  /-- A form reader takes what is added for fields behind those of the URL. -/
  form : ∃ query, get.url.query = some query ∧
    readForm query.toList = readForm (post.url.query.getD "").toList ++ q.pairs
  no_body : get.body = "" ∧ get.contentType = none
  json : post.contentType = some "application/json" ∧
    ∃ members, Json.parse? post.body = some (.object members) ∧ members.Perm q.fields
  parsed : CompiledQuery.parse? post.body = some q

lemma sameQuery_request (q : CompiledQuery) (u : Url) (authorization : Option String) :
    SameQuery q
      { method := .get, url := u.withForm (q.fields.map formPair), authorization }
      { method := .post, url := u, authorization, contentType := some "application/json"
        body := q.text } := by
  have hkeys := q.keys_fields_nodup
  refine ⟨⟨rfl, rfl⟩, rfl, ?_, ?_, ⟨rfl, rfl⟩, ⟨rfl, ?_⟩, q.parse?_text⟩
  · refine ⟨_, u.withForm_eq _, ?_, ?_⟩
    · rw [readForm_joinFields, q.map_formPair_fields]
    · rw [readForm_joinFields, q.map_formPair_fields, CompiledQuery.ofPairs?_pairs]
  · refine ⟨_, congrArg Url.query (u.withForm_eq _), ?_⟩
    rw [String.toList_ofList, u.readForm_ownQuery, readForm_joinFields, q.map_formPair_fields]
  · exact Json.parse?_object (fun _ => CompiledQuery.spellable_of_mem_fields) hkeys

/-- What is sent for a query to a URL of the web. -/
lemma Endpoint.request_of_web {e : Endpoint} {u : Url} (q : CompiledQuery)
    (hparse : Url.parse e.url = .ok u) (hweb : u.scheme = "http" ∨ u.scheme = "https") :
    e.request q =
      let authorization := (u.credentials? <|> e.credentials).map Credentials.header
      let url := if u.credentials?.isSome then u.withoutUser else u
      match e.method with
      | .get => .ok { method := .get, url := url.withForm (q.fields.map formPair), authorization }
      | .post =>
        .ok { method := .post, url, authorization, contentType := some "application/json"
              body := q.text } := by
  have hscheme : ¬ (u.scheme ≠ "http" && u.scheme ≠ "https") = true := by
    rcases hweb with h | h <;> simp [h]
  unfold request
  rw [hparse]
  dsimp only
  cases e.method with
  | get => exact if_neg hscheme
  | post => exact if_neg hscheme

/-- **Both methods carry the same query**, whatever the texts of the query, and whatever the URL has
in front. -/
theorem Endpoint.get_and_post_same_query (e : Endpoint) (q : CompiledQuery) {u : Url}
    (hparse : Url.parse e.url = .ok u) (hweb : u.scheme = "http" ∨ u.scheme = "https") :
    ∃ get post, ({ e with method := .get } : Endpoint).request q = .ok get ∧
      ({ e with method := .post } : Endpoint).request q = .ok post ∧ SameQuery q get post ∧
        post.url = if u.credentials?.isSome then u.withoutUser else u := by
  refine ⟨_, _, ?_, ?_, sameQuery_request q (if u.credentials?.isSome then u.withoutUser else u)
    ((u.credentials? <|> e.credentials).map Credentials.header), rfl⟩
  · exact Endpoint.request_of_web q hparse hweb
  · exact Endpoint.request_of_web q hparse hweb

/-- A filter with the characters that forms and JSON write in their own ways, at a URL with a query. -/
theorem get_and_post_same_query_for_special_characters :
    let q : CompiledQuery :=
      { filter := "cn eq \"a&b=c+d %#é\\\n\"", includeAttributes := "", limit := some 5, cursor := some "" }
    ∃ get post, ({ url := "http://[::1]/d?a=1", method := .get } : Endpoint).request q = .ok get ∧
      ({ url := "http://[::1]/d?a=1", method := .post } : Endpoint).request q = .ok post ∧
        SameQuery q get post := by
  intro q
  have hparse : Url.parse "http://[::1]/d?a=1" = .ok
      { scheme := "http", host := some (.addressV6 [0, 0, 0, 0, 0, 0, 0, 1]), path := "/d"
        query := some "a=1" } := by rfl
  obtain ⟨get, post, hget, hpost, hsame, -⟩ :=
    Endpoint.get_and_post_same_query { url := "http://[::1]/d?a=1" } q hparse (Or.inl rfl)
  exact ⟨get, post, hget, hpost, hsame⟩

end DirectorySearch
