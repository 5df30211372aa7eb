import DirectorySearch.Proofs.Settings.QuotedReference
import Mathlib.Tactic.Common

/-!
# A reference inside a string

A setting may be a string on one line with a reference somewhere inside.  References are looked for in the
text of the line, not in its strings: a `#` ends the search also where it stands in a string and begins no
comment.

* `scanRest_append` — what a line is cut into behind some pieces depends on whether they hold a `#`.
* `EmbeddedReference` — a reference inside a string, with the text around it.
* `EmbeddedReference.exists_inner` — the pieces of the string, and of what follows it.
* `TextSetting.Embeds` — a setting that is such a string.
* **`Settings.load_embedded`** — the value is part of the setting exactly when no `#` stands in front of
  the reference on its line.  Otherwise the reference itself is.
-/

namespace DirectorySearch

/-! ## Pieces behind pieces -/

/-- The pieces that the rest of a line is cut into, with or without a `#` in front of it. -/
def scanRest (comment : Bool) (rest : List Char) : List LinePiece :=
  if comment then rest.map .char else scanLine rest

section

variable {comment : Bool} {rest name : List Char} {piece : LinePiece} {left right : List LinePiece}

lemma flatMap_text_scanRest (comment : Bool) (rest : List Char) :
    (scanRest comment rest).flatMap LinePiece.text = rest := by
  cases comment
  · exact flatMap_text_scanLine rest
  · exact flatMap_char (fun _ => rfl) rest

lemma scanRest_cons (h : scanRest comment rest = piece :: right) :
    ∃ rest', right = scanRest (comment || piece.text.contains '#') rest' := by
  cases comment with
  | true =>
      obtain ⟨c, rest, rfl, -, rfl⟩ := List.map_eq_cons_iff.mp h
      exact ⟨rest, rfl⟩
  | false =>
      rw [scanRest, if_neg Bool.false_ne_true] at h
      revert h
      fun_cases scanLine rest with
      | case1 => exact fun h => nomatch h
      | case2 rest =>
          intro h
          obtain ⟨rfl, rfl⟩ := List.cons.inj h
          exact ⟨rest, rfl⟩
      | case3 rest name rest' hread =>
          intro h
          obtain ⟨rfl, rfl⟩ := List.cons.inj h
          exact ⟨rest', by simp [scanRest, LinePiece.text, referenceText]⟩
      | case4 rest hread =>
          intro h
          obtain ⟨rfl, rfl⟩ := List.cons.inj h
          exact ⟨_, rfl⟩
      | case5 c rest hhash hopen =>
          intro h
          obtain ⟨rfl, rfl⟩ := List.cons.inj h
          exact ⟨rest, by simp [scanRest, LinePiece.text, Ne.symm hhash]⟩

/-- **Behind some pieces** stand the pieces of a rest that has a `#` in front if they have one. -/
lemma scanRest_append (h : scanRest comment rest = left ++ right) :
    ∃ rest', right = scanRest (comment || (left.flatMap LinePiece.text).contains '#') rest' := by
  induction left generalizing comment rest with
  | nil => exact ⟨rest, by simpa using h.symm⟩
  | cons piece left ih =>
      obtain ⟨rest', hrest'⟩ := scanRest_cons h
      simpa [Bool.or_assoc] using ih hrest'.symm

lemma scanRest_chars {w : List Char} (hw : '$' ∉ w) (comment : Bool) (rest : List Char) :
    scanRest comment (w ++ rest) = w.map .char ++ scanRest (comment || w.contains '#') rest := by
  induction w generalizing comment with
  | nil => simp
  | cons c w ih =>
      rw [List.mem_cons, not_or] at hw
      have hstep : scanRest comment (c :: (w ++ rest)) =
          .char c :: scanRest (comment || c = '#') (w ++ rest) := by
        cases comment with
        | true => rfl
        | false =>
            by_cases hc : c = '#'
            · subst hc
              simp [scanRest, scanLine]
            · have hscan : scanLine (c :: (w ++ rest)) = .char c :: scanLine (w ++ rest) :=
                scanLine.eq_4 _ _ hc fun _ hdollar => absurd hdollar.symm hw.1
              simp [scanRest, hc, hscan]
      rw [List.cons_append, hstep, ih hw.2]
      simp [Bool.or_assoc, eq_comm]

lemma scanRest_reference (hne : name ≠ []) (hclosing : '\x7d' ∉ name) (rest : List Char) :
    scanRest false (referenceText name ++ rest)
      = .reference name :: scanRest (name.contains '#') rest := by
  have hread : readReference? (name ++ '\x7d' :: rest) = some (name, rest) :=
    readReference?_eq_some_iff.mpr ⟨hne, hclosing, rfl⟩
  have htext : referenceText name ++ rest = '$' :: '\x7b' :: (name ++ '\x7d' :: rest) := by
    simp [referenceText]
  rw [htext, scanRest, if_neg Bool.false_ne_true, scanLine]
  split
  · next name' rest' hread' =>
    obtain ⟨rfl, rfl⟩ := Prod.mk.inj (Option.some.inj (hread.symm.trans hread'))
    rfl
  · next hnone =>
    rw [hread] at hnone
    cases hnone

end

/-! ## The string -/

/-- A text that is read as itself between double quotes, and in which no reference begins. -/
def IsVerbatim (w : List Char) : Prop := Toml.IsPlain w ∧ '$' ∉ w

instance : DecidablePred IsVerbatim := fun w =>
  inferInstanceAs (Decidable (('"' ∉ w ∧ '\\' ∉ w) ∧ '$' ∉ w))

/-- A reference inside a string between double quotes: the lines above and below; the pieces of its line
up to the opening quote, which is no part of another reference, and behind it; and, as it is written, what
the string has in front of the reference and behind it. -/
structure EmbeddedReference (text : List Char) where
  above : List (List Char)
  line : List Char
  below : List (List Char)
  lines_eq : textLines text = above ++ line :: below
  left : List LinePiece
  inner : List LinePiece
  pieces_eq : scanLine line = left ++ .char '"' :: inner
  front : List Char
  name : List Char
  back : List Char
  right : List Char
  inner_eq : inner.flatMap LinePiece.text = front ++ (referenceText name ++ (back ++ '"' :: right))
  front_verbatim : IsVerbatim front
  back_verbatim : IsVerbatim back
  name_ne : name ≠ []
  closing_not_mem : '\x7d' ∉ name
  name_plain : Toml.IsPlain name

namespace EmbeddedReference

variable {text : List Char} {env : Environment} {v : String}

/-- The text of the line in front of the reference, without the opening quote. -/
def lineFront (r : EmbeddedReference text) : List Char := r.left.flatMap LinePiece.text ++ r.front

/-- What the reference comes to if its variable has this value. -/
def middle (r : EmbeddedReference text) (v : String) : List Char :=
  if '#' ∈ r.lineFront then referenceText r.name else v.toList

/-- The pieces of the reference: its characters if a `#` stands in front of it. -/
def middlePieces (r : EmbeddedReference text) : List LinePiece :=
  if '#' ∈ r.lineFront then (referenceText r.name).map .char else [.reference r.name]

/-- What comes before the opening quote. -/
def before (r : EmbeddedReference text) (env : Environment) : List Char :=
  joinFields '\n' (r.above.map (lineIn env) ++ [r.left.flatMap (LinePiece.textIn env)])

/-- What comes behind it. -/
def rest (r : EmbeddedReference text) (env : Environment) : List Char :=
  joinFields '\n' (r.inner.flatMap (LinePiece.textIn env) :: r.below.map (lineIn env))

lemma expand_eq_ok (r : EmbeddedReference text) {expanded : List Char}
    (h : expand env text = .ok expanded) : expanded = r.before env ++ '"' :: r.rest env := by
  have hline : lineIn env r.line = r.left.flatMap (LinePiece.textIn env)
      ++ ('"' :: r.inner.flatMap (LinePiece.textIn env)) := by
    rw [lineIn, r.pieces_eq, List.flatMap_append, List.flatMap_cons]
    rfl
  rw [expand_eq, outcome_eq_ok_iff] at h
  rw [← h.2, r.lines_eq, List.map_append, List.map_cons, hline, joinFields_around, joinFields_cons_cons]
  rfl

/-- **The pieces behind the opening quote.** -/
lemma exists_inner (r : EmbeddedReference text) : ∃ tail,
    r.inner = r.front.map .char ++ (r.middlePieces ++ (r.back.map .char ++ .char '"' :: tail)) := by
  have hpieces : scanRest false r.line = (r.left ++ [.char '"']) ++ r.inner := by
    rw [List.append_assoc]
    exact r.pieces_eq
  obtain ⟨rest, hinner⟩ := scanRest_append hpieces
  have hrest : r.inner.flatMap LinePiece.text = rest := by
    rw [hinner, flatMap_text_scanRest]
  -- What follows the reference is literal up to the closing quote, with a `#` in front of it or without.
  have hback (comment : Bool) : ∃ tail,
      scanRest comment (r.back ++ '"' :: r.right) = r.back.map .char ++ .char '"' :: tail := by
    rw [scanRest_chars r.back_verbatim.2, ← List.singleton_append, scanRest_chars (by decide)]
    exact ⟨_, rfl⟩
  rw [r.inner_eq] at hrest
  rw [← hrest, scanRest_chars r.front_verbatim.2] at hinner
  have hcomment : (false || ((r.left ++ [LinePiece.char '"']).flatMap LinePiece.text).contains '#'
      || r.front.contains '#') = decide ('#' ∈ r.lineFront) := by
    simp [lineFront, LinePiece.text]
  rw [hcomment] at hinner
  rw [middlePieces]
  by_cases hhash : '#' ∈ r.lineFront
  · obtain ⟨tail, htail⟩ := hback true
    rw [scanRest, if_pos rfl] at htail
    rw [decide_eq_true hhash, scanRest, if_pos rfl, List.map_append, htail] at hinner
    exact ⟨tail, by rw [hinner, if_pos hhash]⟩
  · obtain ⟨tail, htail⟩ := hback (r.name.contains '#')
    rw [decide_eq_false hhash, scanRest_reference r.name_ne r.closing_not_mem, htail] at hinner
    exact ⟨tail, by rw [hinner, if_neg hhash, List.singleton_append]⟩

/-- **What comes between the quotes.** -/
lemma rest_eq (r : EmbeddedReference text) (hv : env.get? (String.ofList r.name) = some v) :
    ∃ after, r.rest env = (r.front ++ (r.middle v ++ r.back)) ++ '"' :: after := by
  obtain ⟨tail, hinner⟩ := r.exists_inner
  have hchars := flatMap_char fun c => (rfl : LinePiece.textIn env (.char c) = [c])
  have hmiddle : r.middlePieces.flatMap (LinePiece.textIn env) = r.middle v := by
    rw [middlePieces, middle]
    split
    · exact hchars _
    · simp [LinePiece.textIn, Environment.valueOf, hv]
  refine ⟨joinFields '\n' (tail.flatMap (LinePiece.textIn env) :: r.below.map (lineIn env)), ?_⟩
  rw [rest, hinner, List.flatMap_append, List.flatMap_append, hmiddle, List.flatMap_append,
    List.flatMap_cons, hchars, hchars, joinFields_append_cons, joinFields_append_cons,
    joinFields_append_cons]
  simp [LinePiece.textIn, joinFields_cons_cons]

end EmbeddedReference

/-! ## The setting -/

/-- A setting stands in a text as such a string, on one line, and the variable has this value. -/
inductive TextSetting.Embeds (x : TextSetting) (env : Environment) {text : List Char}
    (r : EmbeddedReference text) (v : String) : Prop where
  | intro (hv : env.get? (String.ofList r.name) = some v) (hline : ¬ ['"', '"'] <+: r.rest env)
      {steps : List Toml.Step} (hsteps : x.At steps)
      (hplace : Toml.DocumentTo (r.before env ++ '"' :: r.rest env) steps ('"' :: r.rest env))

lemma isPlain_append {v w : List Char} (hv : Toml.IsPlain v) (hw : Toml.IsPlain w) :
    Toml.IsPlain (v ++ w) := by
  simp [Toml.IsPlain, hv.1, hv.2, hw.1, hw.2]

lemma EmbeddedReference.content_plain {text : List Char} (r : EmbeddedReference text) {v : String}
    (hv : IsVerbatim v.toList) : Toml.IsPlain (r.front ++ (r.middle v ++ r.back)) := by
  refine isPlain_append r.front_verbatim.1 (isPlain_append ?_ r.back_verbatim.1)
  rw [middle]
  split
  · simp [referenceText, Toml.IsPlain, r.name_plain.1, r.name_plain.2]
  · exact hv.1

/-- **A setting that is a string with a reference inside** has the value in place of the reference exactly
when no `#` stands in front of the reference on its line.  With a `#` there, in this string or in an
earlier one, the reference stays as it is written. -/
theorem Settings.load_embedded {x : TextSetting} {env : Environment} {text v : String}
    {r : EmbeddedReference text.toList} {s : Settings} (hx : x.Embeds env r v) (hv : IsVerbatim v.toList)
    (hload : load env text = .ok s) :
    (x.get s = some (String.ofList (r.front ++ (v.toList ++ r.back))) ↔ '#' ∉ r.lineFront) ∧
    ('#' ∈ r.lineFront → x.get s =
      some (String.ofList (r.front ++ (referenceText r.name ++ r.back)))) := by
  obtain @⟨hvalue, hline, steps, hsteps, hplace⟩ := hx
  obtain ⟨expanded, value, hexpand, hparse, hs, -⟩ := load_eq_ok_iff.mp hload
  obtain rfl := r.expand_eq_ok hexpand
  obtain ⟨t, rest, ht, hat⟩ := Toml.DocumentTo.at? (by rwa [String.toList_ofList]) hparse
  have hget : x.get s = some (String.ofList t) := TextSetting.get_ofToml? hs hsteps hat
  obtain ⟨after, hrest⟩ := r.rest_eq hvalue
  have hcontent : t = r.front ++ (r.middle v ++ r.back) := by
    rw [Toml.readQuoted?_of_not_isPrefix hline, hrest] at ht
    exact (Toml.readBasic?_eq_iff ht).mpr (r.content_plain hv)
  subst hcontent
  by_cases hhash : '#' ∈ r.lineFront
  · have hmiddle : r.middle v = referenceText r.name := if_pos hhash
    rw [hmiddle] at hget
    refine ⟨iff_of_false (fun h => ?_) (not_not_intro hhash), fun _ => hget⟩
    -- The value has no dollar sign, so it is not the reference.
    rw [hget, Option.some_inj, String.ofList_inj, List.append_cancel_left_eq,
      List.append_cancel_right_eq] at h
    exact hv.2 (h ▸ List.mem_cons_self)
  · have hmiddle : r.middle v = v.toList := if_neg hhash
    rw [hmiddle] at hget
    exact ⟨iff_of_true hget hhash, fun h => absurd h hhash⟩

/-! ## Two passwords from the environment -/

/-- A configuration with a password that ends with the value of a variable. -/
def dashedText : String :=
  "[driver]\nurl = 'http://[::1]'\n[driver.auth]\nusername = 'u'\npassword = \"a-${V}\"\n"

/-- The same with a `#` in the password. -/
def hashedText : String :=
  "[driver]\nurl = 'http://[::1]'\n[driver.auth]\nusername = 'u'\npassword = \"a#${V}\"\n"

/-- The lines in front of the password. -/
def linesAbovePassword : List (List Char) :=
  ["[driver]".toList, "url = 'http://[::1]'".toList, "[driver.auth]".toList, "username = 'u'".toList]

def dashedReference : EmbeddedReference dashedText.toList where
  above := linesAbovePassword
  line := "password = \"a-${V}\"".toList
  below := [[]]
  lines_eq := by cbv
  left := "password = ".toList.map .char
  inner := [.char 'a', .char '-', .reference ['V'], .char '"']
  pieces_eq := by cbv
  front := ['a', '-']
  name := ['V']
  back := []
  right := []
  inner_eq := rfl
  front_verbatim := by decide
  back_verbatim := by decide
  name_ne := by decide
  closing_not_mem := by decide
  name_plain := ⟨by decide, by decide⟩

def hashedReference : EmbeddedReference hashedText.toList where
  above := linesAbovePassword
  line := "password = \"a#${V}\"".toList
  below := [[]]
  lines_eq := by cbv
  left := "password = ".toList.map .char
  inner := "a#${V}\"".toList.map .char
  pieces_eq := by cbv
  front := ['a', '#']
  name := ['V']
  back := []
  right := []
  inner_eq := by cbv
  front_verbatim := by decide
  back_verbatim := by decide
  name_ne := by decide
  closing_not_mem := by decide
  name_plain := ⟨by decide, by decide⟩

lemma embeds_of_before {text : List Char} {r : EmbeddedReference text} {env : Environment} {v : String}
    {c : Char} {rest : List Char} (hv : env.get? (String.ofList r.name) = some v)
    (hrest : r.rest env = c :: rest) (hc : c ≠ '"') (hbefore : r.before env = beforePassword) :
    TextSetting.password.Embeds env r v := by
  have hline : ¬ ['"', '"'] <+: r.rest env := fun ⟨_, h⟩ =>
    hc (List.cons.inj (h.trans hrest)).1.symm
  refine .intro hv hline (.cons .key (.cons .key (.cons .key .nil))) ?_
  rw [hbefore]
  exact documentTo_password _

lemma dashedReference_embeds : TextSetting.password.Embeds [("V", "s3cret")] dashedReference "s3cret" :=
  @embeds_of_before _ _ _ _ 'a' "-s3cret\"\n".toList (by cbv) (by cbv) (by decide) (by cbv)

lemma hashedReference_embeds : TextSetting.password.Embeds [("V", "s3cret")] hashedReference "s3cret" :=
  @embeds_of_before _ _ _ _ 'a' "#${V}\"\n".toList (by cbv) (by cbv) (by decide) (by cbv)

lemma load_dashed : Settings.load [("V", "s3cret")] dashedText = .ok (passwordSettings "a-s3cret") :=
  @load_of_expand _ _ _ "a-s3cret\"\n".toList (by cbv) (by cbv)

lemma load_hashed : Settings.load [("V", "s3cret")] hashedText = .ok (passwordSettings "a#${V}") :=
  @load_of_expand _ _ _ "a#${V}\"\n".toList (by cbv) (by cbv)

/-- Behind a dash the value comes in. -/
theorem load_embedded_dashed :
    TextSetting.password.Embeds [("V", "s3cret")] dashedReference "s3cret" ∧ IsVerbatim "s3cret".toList ∧
    ∃ s, Settings.load [("V", "s3cret")] dashedText = .ok s ∧
      TextSetting.password.get s = some "a-s3cret" := by
  refine ⟨dashedReference_embeds, (by decide), _, load_dashed, ?_⟩
  exact (Settings.load_embedded dashedReference_embeds (by decide) load_dashed).1.mpr (by decide)

/-- **Behind a `#` the reference is the password**, though no comment begins there. -/
theorem load_embedded_hashed :
    TextSetting.password.Embeds [("V", "s3cret")] hashedReference "s3cret" ∧ IsVerbatim "s3cret".toList ∧
    ∃ s, Settings.load [("V", "s3cret")] hashedText = .ok s ∧
      TextSetting.password.get s = some "a#${V}" ∧ TextSetting.password.get s ≠ some "a#s3cret" :=
  ⟨hashedReference_embeds, (by decide), _, load_hashed, rfl, by decide⟩

end DirectorySearch
