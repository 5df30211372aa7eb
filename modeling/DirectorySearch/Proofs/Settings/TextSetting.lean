import DirectorySearch.Proofs.Toml.Address
import DirectorySearch.Settings.Decode

/-!
# Settings that are texts

Seven of the settings are texts.  Each stands in the configuration at the end of a short way, on which a
group may be a table or an array that holds its values in order.

* `TextSetting` — the seven, with their values in settings (`get`) and their names (`path`).
* `TextSetting.At` — the ways to a setting in a configuration.
* **`TextSetting.get_ofToml?`** — the string at such a way is the setting.
-/

namespace DirectorySearch

/-- A setting that is a text. -/
inductive TextSetting where
  | name
  | url
  | username
  | password
  | cursorPointer
  | sizePointer
  | filter
deriving DecidableEq, Repr

namespace TextSetting

/-- The value of a setting; credentials and the filter may be missing. -/
def get (s : Settings) : TextSetting → Option String
  | name => some s.name
  | url => some s.driver.url
  | username => s.driver.credentials.map (·.username)
  | password => s.driver.credentials.map (·.password)
  | cursorPointer => some s.pagination.cursorPointer
  | sizePointer => some s.pagination.sizePointer
  | filter => s.logging.filter

/-- The names on the way to a setting, each with the names of its group. -/
def path : TextSetting → List (List String × String)
  | name => [(groups, "name")]
  | url => [(groups, "driver"), (driver, "url")]
  | username => [(groups, "driver"), (driver, "auth"), (auth, "username")]
  | password => [(groups, "driver"), (driver, "auth"), (auth, "password")]
  | cursorPointer => [(groups, "pagination"), (pagination, "cursor_pointer")]
  | sizePointer => [(groups, "pagination"), (pagination, "size_pointer")]
  | filter => [(groups, "observability"), (["logging"], "logging"), (logging, "filter")]
where
  groups := ["name", "driver", "pagination", "observability"]
  driver := ["url", "method", "provider", "timeout_secs", "auth"]
  auth := ["username", "password"]
  pagination := ["page_size", "cursor_pointer", "size_pointer"]
  logging := ["level", "format", "timestamps", "file_line", "filter"]

end TextSetting

/-- A step that leads to the value of a key in a group. -/
inductive LeadsTo : List String × String → Toml.Step → Prop where
  | key {keys key} : LeadsTo (keys, key) (.key key)
  | index {keys key i} (h : keys.idxOf? key = some i) : LeadsTo (keys, key) (.index i)

/-- A way to a setting. -/
def TextSetting.At (x : TextSetting) (steps : List Toml.Step) : Prop := List.Forall₂ LeadsTo x.path steps

/-! ## What groups hold -/

section

variable {t : Toml} {keys : List String} {key : String} {path : List (List String × String)}
  {field : RecordFields} {steps : List Toml.Step}

/-- A way into a group goes on in what the group has under the key. -/
lemma recordFields?_at {u : Toml} (hfield : recordFields? keys t = some field)
    (hsteps : List.Forall₂ LeadsTo ((keys, key) :: path) steps) (h : t.at? steps = some u) :
    ∃ value rest, field key = some value ∧ List.Forall₂ LeadsTo path rest ∧ value.at? rest = some u := by
  obtain ⟨step, rest, hstep, hrest, rfl⟩ := List.forall₂_cons_left_iff.mp hsteps
  cases hstep with
  | key =>
      cases t with
      | table members =>
          rw [recordFields?] at hfield
          split_ifs at hfield
          obtain rfl := Option.some.inj hfield
          rw [Toml.at?, Option.bind_eq_some_iff] at h
          obtain ⟨value, hvalue, hat⟩ := h
          exact ⟨value, rest, hvalue, hrest, hat⟩
      | _ => simp [recordFields?, Toml.at?] at hfield h
  | index hindex =>
      cases t with
      | array items =>
          obtain rfl := Option.some.inj hfield
          rw [Toml.at?, Option.bind_eq_some_iff] at h
          obtain ⟨value, hvalue, hat⟩ := h
          exact ⟨value, rest, by simpa only [hindex, Option.bind_some] using hvalue, hrest, hat⟩
      | _ => simp [recordFields?, Toml.at?] at hfield h

lemma recordFields?_text {v : String} (hfield : recordFields? keys t = some field)
    (hsteps : List.Forall₂ LeadsTo [(keys, key)] steps) (h : t.at? steps = some (.string v)) :
    field key = some (.string v) := by
  obtain ⟨value, rest, hvalue, hrest, hat⟩ := recordFields?_at hfield hsteps h
  obtain rfl := List.forall₂_nil_left_iff.mp hrest
  rwa [Option.some.inj hat] at hvalue

end

section

variable {t : Toml}

lemma Credentials.ofToml?_fields {c : Credentials} (h : Credentials.ofToml? t = some c) :
    ∃ field, recordFields? TextSetting.path.auth t = some field ∧
      (field "username").bind textSetting? = some c.username ∧
      settingOr "" textSetting? (field "password") = some c.password := by
  simp only [Credentials.ofToml?, Option.bind_eq_bind, Option.bind_eq_some_iff] at h
  obtain ⟨field, hfield, username, husername, password, hpassword, hc⟩ := h
  obtain rfl := Option.some.inj hc
  exact ⟨field, hfield, Option.bind_eq_some_iff.mpr husername, hpassword⟩

lemma DriverSettings.ofToml?_fields {d : DriverSettings} (h : DriverSettings.ofToml? t = some d) :
    ∃ field, recordFields? TextSetting.path.driver t = some field ∧
      (field "url").bind textSetting? = some d.url ∧
      optionalSetting Credentials.ofToml? (field "auth") = some d.credentials := by
  simp only [DriverSettings.ofToml?, Option.bind_eq_bind, Option.bind_eq_some_iff] at h
  obtain ⟨field, hfield, url, hurl, method, -, provider, -, timeout, -, credentials, hcredentials, hd⟩ := h
  obtain rfl := Option.some.inj hd
  exact ⟨field, hfield, Option.bind_eq_some_iff.mpr hurl, hcredentials⟩

/-- A way to the credentials leads to a group that has been read as credentials. -/
lemma DriverSettings.credentials_at {d : DriverSettings} {path : List (List String × String)}
    {steps : List Toml.Step} {u : Toml} (h : DriverSettings.ofToml? t = some d)
    (hsteps : List.Forall₂ LeadsTo ((TextSetting.path.driver, "auth") :: path) steps)
    (hat : t.at? steps = some u) :
    ∃ value c rest, Credentials.ofToml? value = some c ∧ d.credentials = some c ∧
      List.Forall₂ LeadsTo path rest ∧ value.at? rest = some u := by
  obtain ⟨field, hfield, -, hcredentials⟩ := ofToml?_fields h
  obtain ⟨value, rest, hvalue, hrest, hat⟩ := recordFields?_at hfield hsteps hat
  rw [hvalue, optionalSetting, Option.map_eq_some_iff] at hcredentials
  obtain ⟨c, hc, hsome⟩ := hcredentials
  exact ⟨value, c, rest, hc, hsome.symm, hrest, hat⟩

lemma Pagination.ofToml?_fields {p : Pagination} (h : Pagination.ofToml? t = some p) :
    ∃ field standard standard', recordFields? TextSetting.path.pagination t = some field ∧
      settingOr standard textSetting? (field "cursor_pointer") = some p.cursorPointer ∧
      settingOr standard' textSetting? (field "size_pointer") = some p.sizePointer := by
  simp only [Pagination.ofToml?, Option.bind_eq_bind, Option.bind_eq_some_iff] at h
  obtain ⟨field, hfield, pageSize, -, cursorPointer, hcursor, sizePointer, hsize, hp⟩ := h
  obtain rfl := Option.some.inj hp
  exact ⟨field, _, _, hfield, hcursor, hsize⟩

lemma LoggingSettings.ofToml?_fields {l : LoggingSettings} (h : LoggingSettings.ofToml? t = some l) :
    ∃ field, recordFields? TextSetting.path.logging t = some field ∧
      optionalSetting textSetting? (field "filter") = some l.filter := by
  simp only [LoggingSettings.ofToml?, Option.bind_eq_bind, Option.bind_eq_some_iff] at h
  obtain ⟨field, hfield, level, -, format, -, timestamps, -, fileLine, -, filter, hfilter, hl⟩ := h
  obtain rfl := Option.some.inj hl
  exact ⟨field, hfield, hfilter⟩

lemma Settings.ofToml?_fields {s : Settings} (h : Settings.ofToml? t = some s) :
    ∃ field, recordFields? TextSetting.path.groups t = some field ∧
      settingOr "default" textSetting? (field "name") = some s.name ∧
      (field "driver").bind DriverSettings.ofToml? = some s.driver ∧
      settingOr {} Pagination.ofToml? (field "pagination") = some s.pagination ∧
      settingOr {} LoggingSettings.ofObservability? (field "observability") = some s.logging := by
  simp only [Settings.ofToml?, Option.bind_eq_bind, Option.bind_eq_some_iff] at h
  obtain ⟨field, hfield, name, hname, driver, hdriver, pagination, hpagination, logging, hlogging, hs⟩ := h
  obtain rfl := Option.some.inj hs
  exact ⟨field, hfield, hname, Option.bind_eq_some_iff.mpr hdriver, hpagination, hlogging⟩

end

/-- **The string that stands at the way to a setting is the setting.** -/
theorem TextSetting.get_ofToml? {t : Toml} {s : Settings} {x : TextSetting} {steps : List Toml.Step}
    {v : String} (h : Settings.ofToml? t = some s) (hx : x.At steps)
    (hat : t.at? steps = some (.string v)) : x.get s = some v := by
  obtain ⟨field, hfield, hname, hdriver, hpagination, hlogging⟩ := Settings.ofToml?_fields h
  cases x with
  | name =>
      rw [recordFields?_text hfield hx hat] at hname
      exact hname.symm
  | url =>
      obtain ⟨d, rest, hd, hrest, hat⟩ := recordFields?_at hfield hx hat
      rw [hd] at hdriver
      obtain ⟨field, hfield, hurl, -⟩ := DriverSettings.ofToml?_fields hdriver
      rw [recordFields?_text hfield hrest hat] at hurl
      exact hurl.symm
  | username =>
      obtain ⟨d, rest, hd, hrest, hat⟩ := recordFields?_at hfield hx hat
      rw [hd] at hdriver
      obtain ⟨value, c, rest, hc, hcredentials, hrest, hat⟩ :=
        DriverSettings.credentials_at hdriver hrest hat
      obtain ⟨field, hfield, husername, -⟩ := Credentials.ofToml?_fields hc
      rw [recordFields?_text hfield hrest hat] at husername
      rw [get, hcredentials]
      exact husername.symm
  | password =>
      obtain ⟨d, rest, hd, hrest, hat⟩ := recordFields?_at hfield hx hat
      rw [hd] at hdriver
      obtain ⟨value, c, rest, hc, hcredentials, hrest, hat⟩ :=
        DriverSettings.credentials_at hdriver hrest hat
      obtain ⟨field, hfield, -, hpassword⟩ := Credentials.ofToml?_fields hc
      rw [recordFields?_text hfield hrest hat] at hpassword
      rw [get, hcredentials]
      exact hpassword.symm
  | cursorPointer =>
      obtain ⟨p, rest, hp, hrest, hat⟩ := recordFields?_at hfield hx hat
      rw [hp] at hpagination
      obtain ⟨field, _, _, hfield, hcursor, -⟩ := Pagination.ofToml?_fields hpagination
      rw [recordFields?_text hfield hrest hat] at hcursor
      exact hcursor.symm
  | sizePointer =>
      obtain ⟨p, rest, hp, hrest, hat⟩ := recordFields?_at hfield hx hat
      rw [hp] at hpagination
      obtain ⟨field, _, _, hfield, -, hsize⟩ := Pagination.ofToml?_fields hpagination
      rw [recordFields?_text hfield hrest hat] at hsize
      exact hsize.symm
  | filter =>
      obtain ⟨o, rest, ho, hrest, hat⟩ := recordFields?_at hfield hx hat
      rw [ho] at hlogging
      obtain ⟨field, hfield, hgroup⟩ := Option.bind_eq_some_iff.mp hlogging
      obtain ⟨l, rest, hl, hrest, hat⟩ := recordFields?_at hfield hrest hat
      rw [hl] at hgroup
      obtain ⟨field, hfield, hfilter⟩ := LoggingSettings.ofToml?_fields hgroup
      rw [recordFields?_text hfield hrest hat] at hfilter
      exact (Option.some.inj hfilter).symm

end DirectorySearch
