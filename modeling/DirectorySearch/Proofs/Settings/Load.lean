import DirectorySearch.Settings.Load
import Mathlib.Tactic.Common

/-!
# When settings are loaded

* `Settings.load_eq_ok_iff` — from a text: every step on the way gives something, and nothing is wrong with
  what comes out.
* `Settings.loadFile_eq_ok_iff` — from a file: it is a text, and that is loaded.
-/

namespace DirectorySearch.Settings

variable {env : Environment} {s s' : Settings}

lemma check_eq_ok_iff : s.check = .ok s' ↔ s = s' ∧ s.problem? = none := by
  unfold check
  split
  · next hproblem => simp [hproblem]
  · next hproblem => simp [hproblem]

theorem load_eq_ok_iff {text : String} :
    load env text = .ok s ↔ ∃ expanded value, expand env text.toList = .ok expanded ∧
      Toml.parse? (String.ofList expanded) = some value ∧ ofToml? value = some s ∧ s.problem? = none := by
  constructor
  · intro h
    unfold load at h
    split at h
    · simp at h
    · next expanded hexpand =>
      split at h
      · simp at h
      · next hsettings =>
        obtain ⟨rfl, hproblem⟩ := check_eq_ok_iff.mp h
        obtain ⟨value, hvalue, hs⟩ := Option.bind_eq_some_iff.mp hsettings
        exact ⟨expanded, value, hexpand, hvalue, hs, hproblem⟩
  · rintro ⟨expanded, value, hexpand, hvalue, hs, hproblem⟩
    simp only [load, hexpand, hvalue, Option.bind_some, hs]
    exact check_eq_ok_iff.mpr ⟨rfl, hproblem⟩

theorem loadFile_eq_ok_iff {path : String} {content : Except FileError (List UInt8)} :
    loadFile env path content = .ok s ↔ ∃ bytes text, content = .ok bytes ∧
      decodeStrict? bytes = some text ∧ load env (String.ofList text) = .ok s := by
  unfold loadFile
  cases content with
  | error e => simp
  | ok bytes => cases hdecode : decodeStrict? bytes <;> simp [hdecode]

end DirectorySearch.Settings
