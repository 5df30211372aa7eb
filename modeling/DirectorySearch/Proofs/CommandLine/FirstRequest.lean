import DirectorySearch.CommandLine.Run
import DirectorySearch.Proofs.Directory.Silence
import DirectorySearch.Proofs.Http.SameQuery
import DirectorySearch.Proofs.Json.OneLine
import DirectorySearch.Proofs.Settings.Load
import Mathlib

/-!
# A dry run of the program shows the first request

With `--pretend` the program prints the query of a search instead of sending it.  Whether it is the query
that would be sent is a question about two runs, which reach it by different ways: one reads the log of a
dry run, the other sends what a cursor asks for.

* `firstQuery` — the query that both come to.
* `dryRun_eq` — a dry run prints it, and sends nothing.
* `sent_search` — a search sends it first, unless its limit is zero.
* `Settings.problem?_of_loadFile` — settings that are loaded have passed the check; so there is a request
  for every query (`Settings.exists_request`).
* **`dry_run_shows_first_request`** — for the arguments of the program.
-/

namespace DirectorySearch

/-! ## Settings that are loaded -/

namespace Settings

variable {s : Settings}

lemma problem?_of_loadFile {env : Environment} {path : String} {content : Except FileError (List UInt8)}
    (h : loadFile env path content = .ok s) : s.problem? = none := by
  obtain ⟨bytes, text, -, -, hload⟩ := loadFile_eq_ok_iff.mp h
  obtain ⟨expanded, value, -, -, -, hproblem⟩ := load_eq_ok_iff.mp hload
  exact hproblem

/-- Settings that pass the check have a URL of the web. -/
lemma exists_url (h : s.problem? = none) :
    ∃ u, Url.parse s.driver.url = .ok u ∧ (u.scheme = "http" ∨ u.scheme = "https") := by
  have hurl : urlProblem? s.driver.url = none := by
    unfold problem? DriverSettings.problem? at h
    split at h
    · simp at h
    · cases hurl : urlProblem? s.driver.url with
      | none => rfl
      | some problem => simp [hurl] at h
  unfold urlProblem? at hurl
  split at hurl
  · simp at hurl
  · next u hparse =>
    refine ⟨u, hparse, ?_⟩
    by_contra hscheme
    rw [if_neg (by simpa using hscheme)] at hurl
    simp at hurl

/-- **There is a request for every query** at the URL of settings that pass the check. -/
lemma exists_request (h : s.problem? = none) (q : CompiledQuery) : ∃ r, s.endpoint.request q = .ok r := by
  obtain ⟨u, hparse, hweb⟩ := exists_url h
  rw [Endpoint.request_of_web q (e := s.endpoint) hparse hweb]
  cases s.endpoint.method with
  | get => exact ⟨_, rfl⟩
  | post => exact ⟨_, rfl⟩

end Settings

namespace CommandLine

/-! ## The two runs -/

variable {around : Surroundings} {s : Settings} {request : SearchRequest}

/-- The query for the first page of a search. -/
def firstQuery (s : Settings) (request : SearchRequest) : CompiledQuery :=
  (query request (.new s.profile.dialect)).compile.page s.pagination.pageSize none

/-- **A dry run prints the query for the first page**, and sends nothing. -/
lemma dryRun_eq (around : Surroundings) (s : Settings) (request : SearchRequest) :
    (dryRun around s request).requests = [] ∧
      (dryRun around s request).lines = [(firstQuery s request).text] ∧
      (dryRun around s request).error = none ∧ (dryRun around s request).exitCode = 0 := by
  set c := s.connect around.deliveries with hc
  have hidle : PageCursor.Idle ((query request c.query).cursor c.enterDryRun.2) :=
    PageCursor.idle_cursor _ _ _
  obtain ⟨c', hcollect, hquiet⟩ := hidle.collect (n := 0) (c := c.enterDryRun.2) (.inl rfl)
  have hsent : c'.sent = [] := by simpa [Connection.enterDryRun, hc, Settings.connect] using hquiet.sent
  have hlogged : c'.loggedQueries = [firstQuery s request] := hquiet.logged
  refine ⟨?_, ?_, rfl, rfl⟩
  · show s.endpoint.requests
      (((query request c.query).cursor c.enterDryRun.2).collect c.enterDryRun.2).2.2.sent = []
    rw [hcollect, hsent]
    rfl
  · show (((query request c.query).cursor c.enterDryRun.2).collect c.enterDryRun.2).2.2.log.entries.map
      (fun e => e.query.text) = _
    rw [hcollect, ← List.map_singleton, ← hlogged, Connection.loggedQueries, List.map_map]
    rfl

/-- **A search sends the query for the first page first**, and nothing if its limit is zero. -/
lemma sent_search (around : Surroundings) (deliveries : List Delivery) (s : Settings)
    (request : SearchRequest) :
    ∃ sent, (search { around with deliveries } s request).requests = s.endpoint.requests sent ∧
      if request.limit.getD defaultLimit = 0 then sent = []
      else sent.head? = some (firstQuery s request) := by
  set c := s.connect deliveries
  set limit := request.limit.getD defaultLimit with hlimit
  refine ⟨(((query request c.query).cursor c).take c limit.toNat).2.2.sent, rfl, ?_⟩
  split_ifs with hzero
  · rw [hzero]
    rfl
  · obtain ⟨h, hf, -⟩ :=
      PageCursor.Follows.pull (c := c) rfl (query request c.query).compile limit limit.toNat
    have hsent : (((query request c.query).cursor c).take c limit.toNat).2.2.sent
        = h.requests (query request c.query).compile s.pagination.pageSize := by
      rw [PageCursor.take_eq_pull]
      exact hf.sent
    rw [hsent]
    cases h with
    | nil =>
        -- a search that has read no page has given an entry for every call
        have hlive : limit.toNat ≤ 0 := hf.live rfl
        exact absurd (UInt32.toNat_inj.mp (Nat.le_zero.mp hlive)) hzero
    | cons page h =>
        rw [PageHistory.requests, List.length_cons, List.range_succ_eq_map]
        rfl

/-! ## The program -/

lemma run_search {args : List String} {config : Option String}
    (hargs : Invocation.parse args = .run (.search request) config)
    (hload : Settings.loadFile around.environment (config.getD Invocation.defaultConfig)
      (around.fileContent (config.getD Invocation.defaultConfig)) = .ok s) :
    run around args = if request.pretend then dryRun around s request else search around s request := by
  rw [run, hargs]
  dsimp only
  rw [runCommand, hload]

/-- **A dry run of the program shows the first request.**  Arguments that differ in nothing but
`--pretend`, in whatever order they are given: with it, one line is printed and nothing is sent; without
it, whatever the directory replies, the query in that line is what is sent first. -/
theorem dry_run_shows_first_request {args pretendArgs : List String} {config : Option String}
    (hargs : Invocation.parse args = .run (.search { request with pretend := false }) config)
    (hpretend : Invocation.parse pretendArgs = .run (.search { request with pretend := true }) config)
    (hload : Settings.loadFile around.environment (config.getD Invocation.defaultConfig)
      (around.fileContent (config.getD Invocation.defaultConfig)) = .ok s) :
    ∃ line q r, CompiledQuery.parse? line = some q ∧ '\n' ∉ line.toList ∧ s.endpoint.request q = .ok r ∧
      (∀ deliveries,
        (run { around with deliveries } pretendArgs).requests = [] ∧
        (run { around with deliveries } pretendArgs).lines = [line] ∧
        (run { around with deliveries } pretendArgs).exitCode = 0) ∧
      ∀ deliveries,
        if request.limit.getD defaultLimit = 0 then (run { around with deliveries } args).requests = []
        else (run { around with deliveries } args).requests.head? = some r := by
  set q := firstQuery s request
  obtain ⟨r, hr⟩ := Settings.exists_request (Settings.problem?_of_loadFile hload) q
  refine ⟨q.text, q, r, q.parse?_text, Json.newline_not_mem_text _, hr, ?_, ?_⟩
  · intro deliveries
    have hrun : run { around with deliveries } pretendArgs
        = dryRun { around with deliveries } s { request with pretend := true } :=
      run_search hpretend hload
    rw [hrun]
    obtain ⟨hrequests, hlines, -, hcode⟩ :=
      dryRun_eq { around with deliveries } s { request with pretend := true }
    exact ⟨hrequests, hlines, hcode⟩
  · intro deliveries
    have hrun : run { around with deliveries } args
        = search { around with deliveries } s { request with pretend := false } :=
      run_search hargs hload
    obtain ⟨sent, hrequests, hsent⟩ := sent_search around deliveries s { request with pretend := false }
    rw [hrun, hrequests]
    split_ifs at hsent ⊢ with hzero
    · rw [hsent]
      rfl
    · obtain ⟨rest, rfl⟩ : ∃ rest, sent = q :: rest := by
        cases sent with
        | nil => simp at hsent
        | cons first rest => exact ⟨rest, congrArg (· :: rest) (Option.some.inj hsent)⟩
      rw [Endpoint.requests, List.filterMap_cons_some (b := r) (by rw [hr]; rfl), List.head?_cons]

/-- A search for a user, with the condition written in two ways. -/
theorem dry_run_shows_first_request_for_uid :
    let around : Surroundings :=
      { fileContent := fun _ => .ok (utf8Bytes "[driver]\nurl = 'http://[::1]'\n".toList) }
    ∃ line q, CompiledQuery.parse? line = some q ∧
      (∀ deliveries,
        (run { around with deliveries } ["search", "--pretend", "-w", "uid=u"]).requests = [] ∧
        (run { around with deliveries } ["search", "--pretend", "-w", "uid=u"]).lines = [line]) ∧
      ∃ r, ({ url := "http://[::1]" } : Endpoint).request q = .ok r ∧
        ∀ deliveries,
          (run { around with deliveries } ["search", "--where=uid=u"]).requests.head? = some r := by
  intro around
  have hexpand : expand [] "[driver]\nurl = 'http://[::1]'\n".toList
      = .ok "[driver]\nurl = 'http://[::1]'\n".toList := by cbv
  have hdocument : Toml.readDocument? "[driver]\nurl = 'http://[::1]'\n".toList
      = some [⟨.root, []⟩, ⟨.table ["driver"], [(["url"], .scalar (.string "http://[::1]"))]⟩] := by cbv
  have hparse : Toml.parse? (String.ofList "[driver]\nurl = 'http://[::1]'\n".toList)
      = some (.table [("driver", .table [("url", .string "http://[::1]")])]) := by
    rw [Toml.parse?, String.toList_ofList, hdocument]
    rfl
  have hdecode : decodeStrict? (utf8Bytes "[driver]\nurl = 'http://[::1]'\n".toList)
      = some "[driver]\nurl = 'http://[::1]'\n".toList := by cbv
  have hload : Settings.loadFile [] "scim-query.toml" (around.fileContent "scim-query.toml")
      = .ok { driver := { url := "http://[::1]" } } := by
    refine Settings.loadFile_eq_ok_iff.mpr ⟨_, _, rfl, hdecode, Settings.load_eq_ok_iff.mpr ?_⟩
    rw [String.toList_ofList]
    exact ⟨_, _, hexpand, hparse, by rfl, by rfl⟩
  have hargs : Invocation.parse ["search", "--where=uid=u"]
      = .run (.search { conditions := [("uid", "u")] }) none := by decide +kernel
  have hpretend : Invocation.parse ["search", "--pretend", "-w", "uid=u"]
      = .run (.search { conditions := [("uid", "u")], pretend := true }) none := by decide +kernel
  obtain ⟨line, q, r, hq, -, hr, hdry, hreal⟩ :=
    @dry_run_shows_first_request around _ { conditions := [("uid", "u")] } ["search", "--where=uid=u"]
      ["search", "--pretend", "-w", "uid=u"] none hargs hpretend hload
  exact ⟨line, q, hq, fun deliveries => ⟨(hdry deliveries).1, (hdry deliveries).2.1⟩, r, hr,
    fun deliveries => hreal deliveries⟩

end CommandLine

end DirectorySearch
