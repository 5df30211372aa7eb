import DirectorySearch.Proofs.Settings.References
import DirectorySearch.Proofs.Text.Fields
import Mathlib.Data.List.Infix
import Mathlib.Tactic.Common

/-!
# The laws of expansion

A text is expanded line by line.  The lines share nothing but the error: the first name without a value,
in reading order, ends it all.

* `expandPieces_append`, `expandLines_append` — one part after the other, with the error of the first that
  has one.
* `expand_eq` — the names decide whether there is a text, and the lines say which.
* `textLines_append_lineFeed`, `textLines_append_return` — a line end separates the lines of two texts.
* `joinFields_textLines` — carriage returns in front of line feeds are all that is lost with the lines.
* `ExpansionLaws` — the laws: the lines of a text, the references of a line, the names that have to have
  values, and a text that refers to none.
* **`expansion_laws`** — they hold in every environment.
-/

namespace DirectorySearch

/-! ## One part after the other -/

section

variable {env : Environment}

lemma expandPieces_append (left right : List LinePiece) :
    expandPieces env (left ++ right) = do
      let l ← expandPieces env left
      let r ← expandPieces env right
      return l ++ r := by
  induction left with
  | nil => cases h : expandPieces env right <;> simp [expandPieces, h] <;> rfl
  | cons piece left ih =>
      rw [List.cons_append, expandPieces, expandPieces]
      cases expandPiece env piece with
      | error name => rfl
      | ok text =>
          dsimp only
          rw [ih]
          cases expandPieces env left with
          | error name => rfl
          | ok l =>
              cases expandPieces env right with
              | error name => rfl
              | ok r => exact congrArg Except.ok (List.append_assoc ..).symm

lemma expandLines_append (above below : List (List Char)) :
    expandLines env (above ++ below) = do
      let a ← expandLines env above
      let b ← expandLines env below
      return a ++ b := by
  induction above with
  | nil => cases h : expandLines env below <;> simp [expandLines, h] <;> rfl
  | cons line above ih =>
      rw [List.cons_append, expandLines, expandLines]
      cases expandLine env line with
      | error name => rfl
      | ok text =>
          dsimp only
          rw [ih]
          cases expandLines env above with
          | error name => rfl
          | ok a => cases expandLines env below <;> rfl

end

/-! ## The names decide -/

/-- The first of some names that has no value. -/
def Environment.firstUnset? (env : Environment) (names : List String) : Option String :=
  names.find? fun name => (env.get? name).isNone

/-- What stands for a name: its value, nothing if it has none. -/
def Environment.valueOf (env : Environment) (name : String) : List Char :=
  ((env.get? name).getD "").toList

/-- A piece with the value in place of the reference. -/
def LinePiece.textIn (env : Environment) : LinePiece → List Char
  | .char c => [c]
  | .reference name => env.valueOf (String.ofList name)

/-- The names that a line refers to, in order. -/
def lineNames (line : List Char) : List String := (scanLine line).filterMap LinePiece.name?

/-- A line with the values in place of its references. -/
def lineIn (env : Environment) (line : List Char) : List Char :=
  (scanLine line).flatMap (LinePiece.textIn env)

/-- What comes out if the first name without a value is this. -/
def outcome {α : Type} (result : α) : Option String → Except String α
  | some name => .error name
  | none => .ok result

/-- The lines of a text. -/
def textLines (text : List Char) : List (List Char) := cleanLines (fields '\n' text)

section

variable {env : Environment}

lemma outcome_eq_ok_iff {α : Type} {result result' : α} {unset : Option String} :
    outcome result unset = .ok result' ↔ unset = none ∧ result = result' := by
  cases unset <;> simp [outcome]

lemma outcome_eq_error_iff {α : Type} {result : α} {unset : Option String} {name : String} :
    outcome result unset = .error name ↔ unset = some name := by
  cases unset <;> simp [outcome]

lemma map_outcome {α β : Type} (f : α → β) (result : α) (unset : Option String) :
    (outcome result unset).map f = outcome (f result) unset := by
  cases unset <;> rfl

lemma firstUnset?_append (names more : List String) :
    env.firstUnset? (names ++ more) = (env.firstUnset? names).or (env.firstUnset? more) :=
  List.find?_append

lemma firstUnset?_eq_none_iff {names : List String} :
    env.firstUnset? names = none ↔ ∀ name ∈ names, (env.get? name).isSome := by
  simp [Environment.firstUnset?, Option.isSome_iff_ne_none]

lemma expandPieces_eq (pieces : List LinePiece) : expandPieces env pieces =
    outcome (pieces.flatMap (LinePiece.textIn env))
      (env.firstUnset? (pieces.filterMap LinePiece.name?)) := by
  induction pieces with
  | nil => rfl
  | cons piece pieces ih =>
      rw [expandPieces, ih]
      cases piece with
      | char c => exact map_outcome _ _ _
      | reference name =>
          cases hvalue : env.get? (String.ofList name) with
          | none => simp [expandPiece, LinePiece.name?, Environment.firstUnset?, hvalue, outcome]
          | some value =>
              simp [expandPiece, LinePiece.name?, Environment.firstUnset?, LinePiece.textIn,
                Environment.valueOf, hvalue, map_outcome]

lemma expandLines_eq (lines : List (List Char)) : expandLines env lines =
    outcome (lines.map (lineIn env)) (env.firstUnset? (lines.flatMap lineNames)) := by
  induction lines with
  | nil => rfl
  | cons line lines ih =>
      rw [expandLines, expandLine, expandPieces_eq, ih, List.flatMap_cons, firstUnset?_append, lineNames]
      cases env.firstUnset? ((scanLine line).filterMap LinePiece.name?) with
      | some name => rfl
      | none => exact map_outcome _ _ _

lemma referencedNames_eq (text : List Char) : referencedNames text = (textLines text).flatMap lineNames :=
  rfl

/-- **The names decide whether there is a text, and the lines say which.** -/
theorem expand_eq (text : List Char) : expand env text =
    outcome (joinFields '\n' ((textLines text).map (lineIn env)))
      (env.firstUnset? (referencedNames text)) := by
  rw [expand, expandLines_eq, map_outcome]
  rfl

end

/-! ## The lines of a text -/

lemma cleanLines_append (lines : List (List Char)) {more : List (List Char)} (hmore : more ≠ []) :
    cleanLines (lines ++ more) = lines.map withoutReturn ++ cleanLines more := by
  obtain ⟨next, more, rfl⟩ := List.exists_cons_of_ne_nil hmore
  induction lines with
  | nil => rfl
  | cons line lines ih => cases lines <;> simp_all [cleanLines]

lemma textLines_ne_nil (text : List Char) : textLines text ≠ [] := by
  obtain ⟨line, lines, hlines⟩ := List.exists_cons_of_ne_nil (fields_ne_nil '\n' text)
  rw [textLines, hlines]
  cases lines <;> simp [cleanLines]

/-- Two texts whose lines follow each other are expanded one after the other. -/
lemma expand_of_textLines {env : Environment} {text a b : List Char}
    (h : textLines text = textLines a ++ textLines b) :
    expand env text = do
      let above ← expand env a
      let below ← expand env b
      return above ++ '\n' :: below := by
  have hnames : referencedNames text = referencedNames a ++ referencedNames b := by
    rw [referencedNames_eq, h, List.flatMap_append]
    rfl
  have hne (text : List Char) : (textLines text).map (lineIn env) ≠ [] := by
    simpa using textLines_ne_nil text
  rw [expand_eq, expand_eq a, expand_eq b, hnames, firstUnset?_append, h, List.map_append,
    joinFields_append (hne a) (hne b)]
  cases env.firstUnset? (referencedNames a) with
  | some name => rfl
  | none => cases env.firstUnset? (referencedNames b) <;> rfl

lemma withoutReturn_of_getLast? {line : List Char} (h : line.getLast? ≠ some '\r') :
    withoutReturn line = line :=
  if_neg h

lemma withoutReturn_append_return (line : List Char) : withoutReturn (line ++ ['\r']) = line := by
  rw [withoutReturn, if_pos (by simp), List.dropLast_concat]

/-- What a line feed ends are the lines before it, each without a carriage return at its end. -/
lemma textLines_append (a b : List Char) :
    textLines (a ++ '\n' :: b) = (fields '\n' a).map withoutReturn ++ textLines b := by
  rw [textLines, fields_append, cleanLines_append _ (fields_ne_nil '\n' b), textLines]

theorem textLines_append_lineFeed {a : List Char} (ha : a.getLast? ≠ some '\r') (b : List Char) :
    textLines (a ++ '\n' :: b) = textLines a ++ textLines b := by
  obtain ⟨front, last, hlast, hfields⟩ := exists_fields_append '\n' a
  have hsame := hfields [] (by simp)
  rw [List.append_nil, List.append_nil] at hsame
  -- The last line of the text is its end, so it has no carriage return to lose.
  have hreturn : last.getLast? ≠ some '\r' := fun h => by
    obtain ⟨before, rfl⟩ := hlast
    exact ha (by simp [h])
  rw [textLines_append, textLines.eq_1 a, hsame, cleanLines_append _ (by simp), List.map_append]
  simp [cleanLines, withoutReturn_of_getLast? hreturn]

theorem textLines_append_return (a b : List Char) :
    textLines (a ++ '\r' :: '\n' :: b) = textLines a ++ textLines b := by
  obtain ⟨front, last, -, hfields⟩ := exists_fields_append '\n' a
  have hsame := hfields [] (by simp)
  rw [List.append_nil, List.append_nil] at hsame
  have htext : a ++ '\r' :: '\n' :: b = (a ++ ['\r']) ++ '\n' :: b := by simp
  rw [htext, textLines_append, textLines.eq_1 a, hsame, hfields ['\r'] (by decide),
    cleanLines_append _ (by simp), List.map_append]
  simp [cleanLines, withoutReturn_append_return]

/-- A text without the carriage returns in front of its line feeds. -/
def dropReturns : List Char → List Char
  | '\r' :: '\n' :: rest => '\n' :: dropReturns rest
  | c :: rest => c :: dropReturns rest
  | [] => []

lemma withoutReturn_cons {c : Char} {line : List Char} (h : line = [] → c ≠ '\r') :
    withoutReturn (c :: line) = c :: withoutReturn line := by
  cases line with
  | nil => exact withoutReturn_of_getLast? (by simpa using h rfl)
  | cons d line =>
      simp only [withoutReturn, List.getLast?_cons_cons, List.dropLast_cons_cons]
      split <;> rfl

/-- The lines put together again are the text without its carriage returns. -/
theorem joinFields_textLines (text : List Char) :
    joinFields '\n' (textLines text) = dropReturns text := by
  fun_induction dropReturns text with
  | case1 rest ih =>
      have hlines : textLines ('\r' :: '\n' :: rest) = [[]] ++ textLines rest :=
        textLines_append_return [] rest
      rw [hlines, joinFields_append (by simp) (textLines_ne_nil rest), ih]
      rfl
  | case2 c rest hreturn ih =>
      by_cases hc : c = '\n'
      · subst hc
        have hlines : textLines ('\n' :: rest) = [[]] ++ textLines rest :=
          textLines_append_lineFeed (a := []) (by simp) rest
        rw [hlines, joinFields_append (by simp) (textLines_ne_nil rest), ih]
        rfl
      · obtain ⟨line, lines, hlines⟩ := List.exists_cons_of_ne_nil (fields_ne_nil '\n' rest)
        rw [← ih, textLines, textLines, fields, if_neg hc, hlines]
        cases lines with
        | nil => rfl
        | cons next lines =>
            -- With an empty line behind it, the carriage return would stand in front of a line feed.
            have hempty : line = [] → c ≠ '\r' := by
              rintro rfl hc
              have hrest := join_fields '\n' rest
              rw [hlines] at hrest
              exact hreturn _ hc hrest.symm
            dsimp only
            rw [cleanLines, withoutReturn_cons hempty, joinFields_cons_cons]
            rfl
  | case3 => rfl

lemma lineFeed_not_mem {text line : List Char} (h : line ∈ textLines text) : '\n' ∉ line := by
  have hclean (lines : List (List Char)) (hlines : ∀ line ∈ lines, '\n' ∉ line) :
      ∀ line ∈ cleanLines lines, '\n' ∉ line := by
    fun_induction cleanLines lines with
    | case1 => exact hlines
    | case2 last => exact hlines
    | case3 line next rest ih =>
        rw [List.forall_mem_cons] at hlines ⊢
        refine ⟨fun hmem => hlines.1 ?_, ih hlines.2⟩
        rw [withoutReturn] at hmem
        split_ifs at hmem
        · exact List.mem_of_mem_dropLast hmem
        · exact hmem
  exact hclean _ (fun _ => separator_not_mem) line h

/-! ## The laws -/

/-- The value of a variable that a reference refers to. -/
def Reference.valueIn (env : Environment) (r : Reference) : List Char := env.valueOf r.variableName

lemma lineIn_of_lineNames {env : Environment} {line : List Char} (h : lineNames line = []) :
    lineIn env line = line := by
  have hpieces : ∀ piece ∈ scanLine line, piece.textIn env = piece.text := by
    intro piece hpiece
    cases piece with
    | char c => rfl
    | reference name => exact absurd (List.filterMap_eq_nil_iff.mp h _ hpiece) (by simp [LinePiece.name?])
  rw [lineIn, List.flatMap_congr hpieces, flatMap_text_scanLine]

/-- **The laws of expansion** in an environment. -/
structure ExpansionLaws (env : Environment) : Prop where
  /-- A text is its lines, and nothing but carriage returns before line feeds gets lost. -/
  lines : ∀ text : List Char, joinFields '\n' (textLines text) = dropReturns text ∧
    ∀ line ∈ textLines text, '\n' ∉ line
  /-- What stands on the two sides of a line feed is expanded on its own. -/
  lineFeed : ∀ a b : List Char, a.getLast? ≠ some '\r' →
    expand env (a ++ '\n' :: b) = do
      let above ← expand env a
      let below ← expand env b
      return above ++ '\n' :: below
  carriageReturn : ∀ a b : List Char,
    expand env (a ++ '\r' :: '\n' :: b) = do
      let above ← expand env a
      let below ← expand env b
      return above ++ '\n' :: below
  /-- A line has one list of references. -/
  references : ∀ line : List Char, ∃! refs, ReferencesFrom line 0 refs
  /-- With the references themselves for values, it is copied as it is. -/
  copied : ∀ (line : List Char) (refs : List Reference), ReferencesFrom line 0 refs →
    copyWith Reference.text line 0 (activeReferences line refs) = line
  /-- Those in front of the first `#` of their line are replaced, and everything else is copied. -/
  replaced : ∀ (text out : List Char) (refs : List Char → List Reference),
    (∀ line ∈ textLines text, ReferencesFrom line 0 (refs line)) → expand env text = .ok out →
    out = joinFields '\n' ((textLines text).map fun line =>
      copyWith (Reference.valueIn env) line 0 (activeReferences line (refs line)))
  /-- The names of a text are those of these references, in reading order. -/
  names : ∀ (text : List Char) (refs : List Char → List Reference),
    (∀ line ∈ textLines text, ReferencesFrom line 0 (refs line)) →
    referencedNames text = (textLines text).flatMap fun line =>
      (activeReferences line (refs line)).map Reference.variableName
  succeeds : ∀ text : List Char, (∃ out, expand env text = .ok out) ↔
    ∀ name ∈ referencedNames text, (env.get? name).isSome
  fails : ∀ (text : List Char) (name : String), expand env text = .error name ↔
    (referencedNames text).find? (fun name => (env.get? name).isNone) = some name
  /-- A text that refers to no names loses its carriage returns before line feeds, and that is all. -/
  plain : ∀ text : List Char, referencedNames text = [] → expand env text = .ok (dropReturns text)

/-- **The laws hold in every environment.** -/
theorem expansion_laws (env : Environment) : ExpansionLaws env where
  lines text := ⟨joinFields_textLines text, fun _ => lineFeed_not_mem⟩
  lineFeed _ b ha := expand_of_textLines (textLines_append_lineFeed ha b)
  carriageReturn a b := expand_of_textLines (textLines_append_return a b)
  references line := by
    obtain ⟨refs, hrefs⟩ := exists_references line 0
    exact ⟨refs, hrefs, fun _ h => h.unique hrefs⟩
  copied line refs hrefs := by
    have hpieces : (scanLine line).flatMap LinePiece.text
        = copyWith Reference.text line 0 (activeReferences line refs) := by
      rw [scanLine_eq hrefs]
      exact flatMap_piecesFrom (fun _ => rfl) _ _ _
    rw [← hpieces, flatMap_text_scanLine]
  replaced text out refs hrefs h := by
    rw [expand_eq, outcome_eq_ok_iff] at h
    rw [← h.2]
    congr 1
    refine List.map_congr_left fun line hline => ?_
    rw [lineIn, scanLine_eq (hrefs line hline)]
    exact flatMap_piecesFrom (fun _ => rfl) _ _ _
  names text refs hrefs := by
    rw [referencedNames_eq]
    refine List.flatMap_congr fun line hline => ?_
    rw [lineNames, scanLine_eq (hrefs line hline), names_piecesFrom]
  succeeds text := by
    simp only [expand_eq, outcome_eq_ok_iff, firstUnset?_eq_none_iff, exists_and_left, exists_eq', and_true]
  fails text name := by
    rw [expand_eq, outcome_eq_error_iff, Environment.firstUnset?]
  plain text h := by
    have hlines : (textLines text).map (lineIn env) = textLines text := by
      conv_rhs => rw [← List.map_id (textLines text)]
      rw [referencedNames_eq, List.flatMap_eq_nil_iff] at h
      exact List.map_congr_left fun line hline => lineIn_of_lineNames (h line hline)
    rw [expand_eq, h, hlines, joinFields_textLines]
    rfl

/-- A value is not looked at again.  Behind a `#` nothing is replaced, and neither is what is not closed on
its line. -/
example : expand [("A", "${B}#"), ("B", "b")] "${A}${B}$\x7b\r\n${B}#${C}\n$\x7b".toList
    = .ok "${B}#b$\x7b\nb#${C}\n$\x7b".toList := by
  cbv

end DirectorySearch
