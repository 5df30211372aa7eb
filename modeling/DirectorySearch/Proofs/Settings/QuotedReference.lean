import DirectorySearch.Proofs.Settings.Expansion
import DirectorySearch.Proofs.Settings.Load
import DirectorySearch.Proofs.Settings.TextSetting
import DirectorySearch.Proofs.Toml.BasicString
import DirectorySearch.Proofs.Toml.Place
import Mathlib

/-!
# A setting that is a reference to the environment

A setting may be a reference to a variable between double quotes.  The value is put into the text as it
is, and only then the text is read as TOML, for which quotes and backslashes have a meaning.

* `QuotedReference` — a reference between double quotes, with the text around it.
* `QuotedReference.expand_eq` — the value stands between the quotes, and the text around it is replaced on
  its own.
* `TextSetting.Refers` — a setting that is such a reference.
* **`Settings.load_reference`** — the setting is the string that TOML reads there; it is the value exactly
  when the value has neither a quote nor a backslash.
-/

namespace DirectorySearch

/-- A reference between double quotes in a text: the lines above and below, and the pieces of the line
to its left and right. -/
structure QuotedReference (text : List Char) where
  above : List (List Char)
  line : List Char
  below : List (List Char)
  lines_eq : cleanLines (fields '\n' text) = above ++ line :: below
  left : List LinePiece
  name : List Char
  right : List LinePiece
  pieces_eq : scanLine line = left ++ .char '"' :: .reference name :: .char '"' :: right

namespace QuotedReference

variable {text : List Char}

/-- What comes before the quotes. -/
def before (r : QuotedReference text) (env : Environment) : Except String (List Char) := do
  let above ← expandLines env r.above
  let left ← expandPieces env r.left
  return joinFields '\n' (above ++ [left])

/-- What comes behind the quotes. -/
def after (r : QuotedReference text) (env : Environment) : Except String (List Char) := do
  let right ← expandPieces env r.right
  let below ← expandLines env r.below
  return joinFields '\n' (right :: below)

end QuotedReference

/-- **The value stands between the quotes.** -/
theorem QuotedReference.expand_eq {env : Environment} {text : List Char} (r : QuotedReference text)
    {v : String} (hv : env.get? (String.ofList r.name) = some v) :
    expand env text = do
      let before ← r.before env
      let after ← r.after env
      return before ++ '"' :: (v.toList ++ '"' :: after) := by
  rw [expand, r.lines_eq, expandLines_append, expandLines, expandLine, r.pieces_eq, expandPieces_append,
    before, after]
  cases expandLines env r.above with
  | error name => rfl
  | ok above =>
      cases expandPieces env r.left with
      | error name => rfl
      | ok left =>
          simp only [expandPieces, expandPiece, hv]
          cases expandPieces env r.right with
          | error name => rfl
          | ok right =>
              cases expandLines env r.below with
              | error name => rfl
              | ok below =>
                  refine congrArg Except.ok ?_
                  rw [joinFields_around]
                  dsimp only
                  rw [joinFields_append_cons, joinFields_append_cons, joinFields_append_cons]
                  rfl

/-! ## The setting -/

/-- A setting stands in a text as a reference between double quotes to a variable of this value, with
this text behind the quotes. -/
inductive TextSetting.Refers (x : TextSetting) (env : Environment) (text v : String) (after : List Char) :
    Prop where
  | intro (r : QuotedReference text.toList) (hv : env.get? (String.ofList r.name) = some v)
      {before : List Char} (hbefore : r.before env = .ok before) (hafter : r.after env = .ok after)
      (hquote : after.head? ≠ some '"') {steps : List Toml.Step} (hsteps : x.At steps)
      (hplace : Toml.DocumentTo (before ++ '"' :: (v.toList ++ '"' :: after)) steps
        ('"' :: (v.toList ++ '"' :: after)))

/-- **A setting that is a reference between double quotes** is the string that TOML reads from the quotes
on.  It is the value of the variable if the value has neither a quote nor a backslash, and only then,
values that open a string of several lines left aside. -/
theorem Settings.load_reference {x : TextSetting} {env : Environment} {text v : String}
    {after : List Char} {s : Settings} (hx : x.Refers env text v after) (hload : load env text = .ok s) :
    (∃ t rest, Toml.readQuoted? ('"' :: (v.toList ++ '"' :: after)) = some (t, rest) ∧
      x.get s = some (String.ofList t)) ∧
    (Toml.IsPlain v.toList → x.get s = some v) ∧
    (x.get s = some v → Toml.IsPlain v.toList ∨ Toml.OpensLong v.toList) := by
  obtain @⟨r, hv, before, hbefore, hafter, hquote, steps, hsteps, hplace⟩ := hx
  have hexpand : expand env text.toList = .ok (before ++ '"' :: (v.toList ++ '"' :: after)) := by
    rw [r.expand_eq hv, hbefore, hafter]
    rfl
  obtain ⟨expanded, value, hexpand', hvalue, hs, -⟩ := load_eq_ok_iff.mp hload
  obtain rfl := Except.ok.inj (hexpand.symm.trans hexpand')
  obtain ⟨t, rest, ht, hat⟩ := Toml.DocumentTo.at? (by rwa [String.toList_ofList]) hvalue
  have hget : x.get s = some (String.ofList t) := TextSetting.get_ofToml? hs hsteps hat
  have hiff : ¬ Toml.OpensLong v.toList → (x.get s = some v ↔ Toml.IsPlain v.toList) := by
    intro hlong
    rw [Toml.readQuoted?_of_not_opensLong hlong hquote] at ht
    rw [← Toml.readBasic?_eq_iff ht, hget, Option.some_inj]
    constructor
    · rintro rfl
      rw [String.toList_ofList]
    · rintro rfl
      rw [String.ofList_toList]
  refine ⟨⟨t, rest, ht, hget⟩, fun hplain => (hiff hplain.not_opensLong).mpr hplain, fun hsame => ?_⟩
  by_cases hlong : Toml.OpensLong v.toList
  · exact .inr hlong
  · exact .inl ((hiff hlong).mp hsame)

/-! ## A password from the environment -/

/-- A configuration with a password from the environment. -/
def passwordText : String :=
  "[driver]\nurl = 'http://[::1]'\n[driver.auth]\nusername = 'u'\npassword = \"${V}\"\n"

/-- The reference of the password. -/
def passwordReference : QuotedReference passwordText.toList where
  above := ["[driver]".toList, "url = 'http://[::1]'".toList, "[driver.auth]".toList,
    "username = 'u'".toList]
  line := "password = \"${V}\"".toList
  below := [[]]
  lines_eq := by cbv
  left := "password = ".toList.map .char
  name := ['V']
  right := []
  pieces_eq := by cbv

/-- The text before the password. -/
def beforePassword : List Char :=
  "[driver]\nurl = 'http://[::1]'\n[driver.auth]\nusername = 'u'\npassword = ".toList

lemma passwordReference_before (env : Environment) :
    passwordReference.before env = .ok beforePassword := by
  cbv

lemma passwordReference_after (env : Environment) : passwordReference.after env = .ok ['\n'] := by
  cbv

open Toml in
lemma documentTo_password (inner : List Char) :
    DocumentTo (beforePassword ++ '"' :: inner) [.key "driver", .key "auth", .key "password"]
      ('"' :: inner) := by
  have hurl : (skipAll ("url = 'http://[::1]'\n[driver.auth]\nusername = 'u'\npassword = ".toList
      ++ '"' :: inner)).head? = some 'u' := by cbv
  have husername : (skipAll ("username = 'u'\npassword = ".toList ++ '"' :: inner)).head? = some 'u' := by
    cbv
  have hpassword : (skipAll ("password = ".toList ++ '"' :: inner)).head? = some 'p' := by cbv
  -- What the section of the driver has come to, behind which the next header stands.
  let driver : Members := [("driver", .table .header [("url", .value (.string "http://[::1]"))])]
  have hsteps : [Step.key "driver", .key "auth", .key "password"]
      = Header.steps driver (.table ["driver", "auth"]) ++ (["password"].map .key ++ []) := by cbv
  rw [hsteps]
  refine @SectionsTo.header _ _ _ _
    ("driver]\nurl = 'http://[::1]'\n[driver.auth]\nusername = 'u'\npassword = ".toList ++ '"' :: inner)
    (.table ["driver"])
    ("url = 'http://[::1]'\n[driver.auth]\nusername = 'u'\npassword = ".toList ++ '"' :: inner) [] _ _
    (by cbv) (by cbv) (by cbv) ?_
  refine @SectionsTo.assignment _ _ _ _ (["url"], .scalar (.string "http://[::1]"))
    ("[driver.auth]\nusername = 'u'\npassword = ".toList ++ '"' :: inner) _ _
    (by rw [hurl]; decide) (by cbv) ?_
  refine @SectionsTo.header _ _ _ _ ("driver.auth]\nusername = 'u'\npassword = ".toList ++ '"' :: inner)
    (.table ["driver", "auth"]) ("username = 'u'\npassword = ".toList ++ '"' :: inner) driver _ _
    (by cbv) (by cbv) (by cbv) ?_
  refine @SectionsTo.assignment _ _ _ _ (["username"], .scalar (.string "u"))
    ("password = ".toList ++ '"' :: inner) _ _ (by rw [husername]; decide) (by cbv) ?_
  exact @SectionsTo.here _ _ _ _ ["password"] (' ' :: '"' :: inner) _ _ (by rw [hpassword]; decide)
    (by cbv) .here

lemma password_refers (v : String) : TextSetting.password.Refers [("V", v)] passwordText v ['\n'] := by
  refine @TextSetting.Refers.intro _ _ _ _ _ passwordReference (by cbv) beforePassword
    (passwordReference_before _) (passwordReference_after _) (by decide) _ ?_ (documentTo_password _)
  exact .cons .key (.cons .key (.cons .key .nil))

/-- The sections of the configuration with a password. -/
def passwordSections (password : String) : List Toml.Section :=
  [⟨.root, []⟩, ⟨.table ["driver"], [(["url"], .scalar (.string "http://[::1]"))]⟩,
    ⟨.table ["driver", "auth"],
      [(["username"], .scalar (.string "u")), (["password"], .scalar (.string password))]⟩]

/-- The settings of the configuration with a password. -/
def passwordSettings (password : String) : Settings :=
  { driver := { url := "http://[::1]", credentials := some ⟨"u", password⟩ } }

lemma problem?_passwordSettings (password : String) : (passwordSettings password).problem? = none := by
  have hname : (trim (passwordSettings password).name.toList).isEmpty = false := by cbv
  have hurl : urlProblem? "http://[::1]" = none := by rfl
  have hdriver : (passwordSettings password).driver.problem? = none := by
    rw [DriverSettings.problem?, passwordSettings, hurl]
    rfl
  have hpagination : (passwordSettings password).pagination.problem? = none := by cbv
  rw [Settings.problem?, hname, hdriver, hpagination]
  rfl

lemma load_of_expand {env : Environment} {text password : String} {inner : List Char}
    (hexpand : expand env text.toList = .ok (beforePassword ++ '"' :: inner))
    (hdocument : Toml.readDocument? (beforePassword ++ '"' :: inner) = some (passwordSections password)) :
    Settings.load env text = .ok (passwordSettings password) := by
  have hvalue : Toml.parse? (String.ofList (beforePassword ++ '"' :: inner))
      = some (.table [("driver", .table [("url", .string "http://[::1]"),
          ("auth", .table [("username", .string "u"), ("password", .string password)])])]) := by
    rw [Toml.parse?, String.toList_ofList, hdocument]
    rfl
  exact Settings.load_eq_ok_iff.mpr
    ⟨_, _, hexpand, hvalue, rfl, problem?_passwordSettings password⟩

lemma load_password {v password : String}
    (hdocument : Toml.readDocument? (beforePassword ++ '"' :: (v.toList ++ ['"', '\n']))
      = some (passwordSections password)) :
    Settings.load [("V", v)] passwordText = .ok (passwordSettings password) := by
  refine load_of_expand ?_ hdocument
  rw [passwordReference.expand_eq (v := v) (by cbv), passwordReference_before, passwordReference_after]
  rfl

/-- A password of letters and digits comes in as it is. -/
theorem load_reference_plain :
    TextSetting.password.Refers [("V", "s3cret")] passwordText "s3cret" ['\n'] ∧
    ∃ s, Settings.load [("V", "s3cret")] passwordText = .ok s ∧
      TextSetting.password.get s = some "s3cret" := by
  have hload := @load_password "s3cret" "s3cret" (by cbv)
  refine ⟨password_refers _, _, hload, ?_⟩
  exact (Settings.load_reference (password_refers _) hload).2.1 ⟨by decide, by decide⟩

/-- **A password with a backslash comes in as another**: `\t` is read as a tab. -/
theorem load_reference_backslash :
    TextSetting.password.Refers [("V", "C:\\temp")] passwordText "C:\\temp" ['\n'] ∧
    ∃ s, Settings.load [("V", "C:\\temp")] passwordText = .ok s ∧
      TextSetting.password.get s = some "C:\temp" ∧ TextSetting.password.get s ≠ some "C:\\temp" := by
  have hload := @load_password "C:\\temp" "C:\temp" (by cbv)
  exact ⟨password_refers _, _, hload, rfl, by decide⟩

end DirectorySearch
