import LineEditor.Keymap
import Mathlib.Data.List.Basic

/-!
# Keys that are written and read again

The written name of a key joins modifiers and the name of a code by dashes, and a binding may have
the name of a layer in front of a colon. But a dash and a colon are keys as well, and a character
that is a key may be a short name of a modifier. Still each written name is read as the key that it
was written for, with one exception: with Ctrl, capital letters are read as small ones.

## Main definitions

* `Key.folded` is a key with the capital letter of a Ctrl key made small.
* `Layer.marks` are the ways to write down a layer in front of a key.
* `Keymap.bindInPlace` binds a written key in a keymap that is kept in a variable.

## Main results

* `Key.ofSpec_display` — the written name of a key is read as the key.
* `Keymap.readSpec_display` — and as the key of its layer.
* `Keymap.run_bindInPlace` — a binding that is refused changes nothing.
* `Keymap.bindSpec_display` — binding the written name of a key binds this key and no other.
-/

namespace LineEditor

namespace Key

/-- The key that the written name stands for: Ctrl makes capital letters small. -/
def folded (k : Key) : Key :=
  match k.code with
  | .char c => { k with code := .char (if k.mods.ctrl then c.toLower else c) }
  | _ => k

/-- The modifiers that are held down, as they are written. -/
def modifierParts (mods : Modifiers) : List Text :=
  (if mods.ctrl then ["ctrl".toList] else []) ++ (if mods.alt then ["alt".toList] else []) ++
    (if mods.shift then ["shift".toList] else [])

variable {k : Key} {mods : Modifiers} {code : KeyCode} {name : Text}

/-! ### The parts of a written name -/

theorem display_eq (k : Key) :
    k.display = (modifierParts k.mods).flatMap (· ++ ['-']) ++ codeName k.code := by
  obtain ⟨code, ctrl, alt, shift⟩ := k
  cases ctrl <;> cases alt <;> cases shift <;> rfl

theorem codeName_char (c : Char) :
    codeName (.char c) = if c = ' ' then "space".toList else [c] := rfl

theorem codeName_ne_nil (code : KeyCode) : codeName code ≠ [] := by
  cases code with
  | char c =>
    rw [codeName_char]
    split
    · decide
    · exact List.cons_ne_nil c []
  | _ => decide

/-- A sign that is no letter is in the name of a code only if it is the code. -/
theorem not_mem_codeName {sign : Char} (hsign : sign.isAlpha = false)
    (hcode : code ≠ .char sign) : sign ∉ codeName code := by
  have hletters : (codeName code).all Char.isAlpha = true ∨ ∃ c, c ≠ ' ' ∧ code = .char c := by
    cases code with
    | char c =>
      by_cases hspace : c = ' '
      · subst hspace
        exact .inl (by decide)
      · exact .inr ⟨c, hspace, rfl⟩
    | _ => exact .inl (by decide)
  intro hmem
  rcases hletters with hall | ⟨c, hspace, rfl⟩
  · exact Bool.false_ne_true (hsign.symm.trans (List.all_eq_true.mp hall sign hmem))
  · rw [codeName_char, if_neg hspace, List.mem_singleton] at hmem
    exact hcode (congrArg KeyCode.char hmem.symm)

/-- Modifiers joined by dashes and a name without a dash are cut at the dashes. -/
theorem splitOn_parts {parts : List Text} (hparts : ∀ part ∈ parts, '-' ∉ part)
    (hname : '-' ∉ name) :
    Text.splitOn '-' (parts.flatMap (· ++ ['-']) ++ name) = parts ++ [name] := by
  induction parts with
  | nil => exact Text.splitOn_of_not_mem hname
  | cons part parts ih =>
    obtain ⟨hpart, hrest⟩ := List.forall_mem_cons.mp hparts
    have hcut : (part :: parts).flatMap (· ++ ['-']) ++ name =
        part ++ '-' :: (parts.flatMap (· ++ ['-']) ++ name) := by simp
    rw [hcut, Text.splitOn_append_cons, Text.splitOn_of_not_mem hpart, ih hrest]
    rfl

/-- The names of modifiers consist of letters. -/
theorem not_mem_modifierParts {sign : Char} (hsign : sign.isAlpha = false) (mods : Modifiers) :
    ∀ part ∈ modifierParts mods, sign ∉ part := by
  have hletters : ∀ part ∈ modifierParts mods, part.all Char.isAlpha = true := by
    obtain ⟨ctrl, alt, shift⟩ := mods
    cases ctrl <;> cases alt <;> cases shift <;> decide
  intro part hpart hmem
  have hletter := List.all_eq_true.mp (hletters part hpart) sign hmem
  exact Bool.false_ne_true (hsign.symm.trans hletter)

/-- A written name is cut into the modifiers and the name of the code, also where this is a dash. -/
theorem specParts_display (k : Key) :
    specParts k.display = modifierParts k.mods ++ [codeName k.code] := by
  obtain ⟨code, mods⟩ := k
  by_cases hdash : code = .char '-'
  · subst hdash
    obtain ⟨ctrl, alt, shift⟩ := mods
    cases ctrl <;> cases alt <;> cases shift <;> rfl
  · -- without a dash in the name of the code the text does not end in one
    have hname : '-' ∉ codeName code := not_mem_codeName rfl hdash
    have hlast : (display ⟨code, mods⟩).getLast? = (codeName code).getLast? := by
      rw [display_eq, List.getLast?_append_of_ne_nil _ (codeName_ne_nil code)]
    have hnoDash : (codeName code).getLast? ≠ some '-' :=
      fun hlast => hname (List.mem_of_getLast? hlast)
    have hlonger : ¬"--".toList.isSuffixOf (display ⟨code, mods⟩) = true := by
      intro hsuffix
      obtain ⟨before, hbefore⟩ := List.isSuffixOf_iff_suffix.mp hsuffix
      rw [← hlast, ← hbefore] at hnoDash
      exact hnoDash (List.getLast?_append_cons before '-' ['-'])
    have halone : display ⟨code, mods⟩ ≠ ['-'] := by
      intro hsame
      rw [← hlast, hsame] at hnoDash
      exact hnoDash rfl
    rw [specParts, if_neg hlonger, if_neg halone, display_eq]
    exact splitOn_parts (not_mem_modifierParts rfl mods) hname

theorem foldlM_modifierParts (mods : Modifiers) :
    (modifierParts mods).foldlM addModifier {} = .ok mods := by
  obtain ⟨ctrl, alt, shift⟩ := mods
  cases ctrl <;> cases alt <;> cases shift <;> rfl

/-- The name of a code stands for the code, and so does each single character. -/
theorem codeOfPart_codeName (k : Key) :
    codeOfPart k.mods.ctrl (codeName k.code) = .ok k.folded.code := by
  obtain ⟨code, mods⟩ := k
  cases code with
  | char c =>
    by_cases hspace : c = ' '
    · subst hspace
      obtain ⟨ctrl, alt, shift⟩ := mods
      cases ctrl <;> rfl
    · show codeOfPart mods.ctrl (codeName (.char c)) = _
      rw [codeName_char, if_neg hspace]
      rfl
  | _ => rfl

theorem display_ne_nil (k : Key) : k.display ≠ [] := by
  rw [display_eq]
  exact List.append_ne_nil_of_right_ne_nil _ (codeName_ne_nil k.code)

/-- The written name of a key is read as the key, with a capital letter made small by Ctrl. -/
theorem ofSpec_display (k : Key) : ofSpec k.display = .ok k.folded := by
  have hfolded : (⟨k.folded.code, k.mods⟩ : Key) = k.folded := by
    obtain ⟨code, mods⟩ := k
    cases code <;> rfl
  rw [ofSpec, if_neg k.display_ne_nil, specParts_display]
  simp only [List.dropLast_concat, List.getLastD_concat, foldlM_modifierParts]
  show (do let code ← codeOfPart k.mods.ctrl (codeName k.code); pure (⟨code, k.mods⟩ : Key)) = _
  rw [codeOfPart_codeName]
  exact congrArg Except.ok hfolded

/-- Only a capital letter with Ctrl is not read as it was. -/
theorem folded_eq_self (h : ∀ c, k.code = .char c → k.mods.ctrl = true → ¬('A' ≤ c ∧ c ≤ 'Z')) :
    k.folded = k := by
  obtain ⟨code, mods⟩ := k
  cases code with
  | char c =>
    have hsame : (if mods.ctrl then c.toLower else c) = c := by
      split
      · next hctrl => exact dif_neg (h c rfl hctrl)
      · rfl
    rw [folded]
    simp only [hsame]
  | _ => rfl

end Key

/-- How a layer may be written down in front of a key. Keys of the insert layer need no mark. -/
def Layer.marks : Layer → List Text
  | .insert => ["insert:".toList, []]
  | .command => ["command:".toList]

namespace Keymap

variable {layer : Layer} {k : Key} {mark spec : Text}

/-! ### Layers -/

theorem splitLayer_insert (h : spec ≠ []) :
    splitLayer ("insert:".toList ++ spec) = .ok (.insert, spec) := by
  have hlayer : ("insert:".toList ++ spec).takeWhile (· ≠ ':') = "insert".toList := rfl
  have hkey : (("insert:".toList ++ spec).dropWhile (· ≠ ':')).drop 1 = spec := rfl
  rw [splitLayer, hlayer, hkey, if_neg (not_or_intro h (by decide)), if_pos rfl]

theorem splitLayer_command (h : spec ≠ []) :
    splitLayer ("command:".toList ++ spec) = .ok (.command, spec) := by
  have hlayer : ("command:".toList ++ spec).takeWhile (· ≠ ':') = "command".toList := rfl
  have hkey : (("command:".toList ++ spec).dropWhile (· ≠ ':')).drop 1 = spec := rfl
  rw [splitLayer, hlayer, hkey, if_neg (not_or_intro h (by decide)), if_neg (by decide), if_pos rfl]

/-- A colon at the end is no mark of a layer. -/
theorem splitLayer_of_not_mem (h : ':' ∉ spec.dropLast) :
    splitLayer spec = .ok (.insert, spec) := by
  have hkey : (spec.dropWhile (· ≠ ':')).drop 1 = [] := by
    rcases List.eq_nil_or_concat' spec with rfl | ⟨before, last, rfl⟩
    · rfl
    · rw [List.dropLast_concat] at h
      have hbefore : ∀ c ∈ before, decide (c ≠ ':') = true := by
        intro c hc
        exact decide_eq_true fun heq => h (heq ▸ hc)
      rw [List.dropWhile_append_of_pos hbefore, List.dropWhile_cons]
      split <;> rfl
  rw [splitLayer, if_pos (.inl hkey)]

/-- A colon in the written name of a key stands at its end. -/
theorem not_mem_dropLast_display (k : Key) : ':' ∉ k.display.dropLast := by
  have hmods : ':' ∉ (Key.modifierParts k.mods).flatMap (· ++ ['-']) := by
    intro hmem
    obtain ⟨part, hpart, hmem⟩ := List.mem_flatMap.mp hmem
    rcases List.mem_append.mp hmem with hmem | hmem
    · exact Key.not_mem_modifierParts rfl k.mods part hpart hmem
    · exact absurd (List.mem_singleton.mp hmem) (by decide)
  have hname : ':' ∉ (Key.codeName k.code).dropLast := by
    by_cases hcolon : k.code = .char ':'
    · rw [hcolon]
      decide
    · exact fun hmem => Key.not_mem_codeName rfl hcolon (List.dropLast_subset _ hmem)
  rw [Key.display_eq, List.dropLast_append_of_ne_nil (Key.codeName_ne_nil k.code), List.mem_append]
  exact not_or_intro hmods hname

/-- A key that is written behind a mark of its layer is read as this key of this layer. -/
theorem readSpec_display (hmark : mark ∈ layer.marks) (k : Key) :
    readSpec (mark ++ k.display) = .ok (layer, k.folded) := by
  have hsplit : splitLayer (mark ++ k.display) = .ok (layer, k.display) := by
    cases layer with
    | insert =>
      rcases List.mem_cons.mp hmark with rfl | hmark
      · exact splitLayer_insert k.display_ne_nil
      · obtain rfl := List.mem_singleton.mp hmark
        exact splitLayer_of_not_mem (not_mem_dropLast_display k)
    | command =>
      obtain rfl := List.mem_singleton.mp hmark
      exact splitLayer_command k.display_ne_nil
  rw [readSpec, hsplit]
  show (do let key ← Key.ofSpec k.display; pure (layer, key)) = _
  rw [Key.ofSpec_display]
  rfl

/-! ### Binding in place -/

/-- Binds a written key in a keymap that is kept in a variable, and gives the name that the key was
bound to before. Whatever has been done to the keymap stays when an error ends the operation. -/
def bindInPlace (spec : Text) (action : String) :
    ExceptT KeySpecError (StateM Keymap) (Option String) := do
  let (layer, key) ← MonadExcept.ofExcept (readSpec spec)
  let before ← get
  set (before.bind layer key action)
  return before.lookup layer key

/-- Binding in place puts the new keymap where the old one was. -/
theorem run_bindInPlace (m : Keymap) (spec : Text) (action : String) :
    (bindInPlace spec action).run.run m =
      match m.bindSpec spec action with
      | .ok (after, replaced) => (.ok replaced, after)
      | .error e => (.error e, m) := by
  rw [bindInPlace, bindSpec]
  cases readSpec spec <;> rfl

/-- Binding the written name of a key, behind a mark of its layer, binds this key of this layer and
gives the name that it was bound to, and all other keys stay as they were. When the text is refused,
all keys do. -/
theorem bindSpec_display (m : Keymap) (layer : Layer) (k : Key) (action : String)
    (hcase : ∀ c, k.code = .char c → k.mods.ctrl = true → ¬('A' ≤ c ∧ c ≤ 'Z')) :
    (∀ mark ∈ layer.marks, ∃ after,
      m.bindSpec (mark ++ k.display) action = .ok (after, m.lookup layer k) ∧
        after.lookup layer k = some action ∧
        ∀ layer' k', (layer', k') ≠ (layer, k) → after.lookup layer' k' = m.lookup layer' k') ∧
    ∀ spec e after, (bindInPlace spec action).run.run m = (.error e, after) →
      ∀ layer' k', after.lookup layer' k' = m.lookup layer' k' := by
  constructor
  · intro mark hmark
    have hread : readSpec (mark ++ k.display) = .ok (layer, k) := by
      rw [readSpec_display hmark, Key.folded_eq_self hcase]
    refine ⟨m.bind layer k action, ?_, lookup_bind_self m layer k action, ?_⟩
    · rw [bindSpec, hread]
      rfl
    · intro layer' k' hother
      exact lookup_bind_of_ne m action hother
  · intro spec e after hrun layer' k'
    rw [run_bindInPlace] at hrun
    cases hbind : m.bindSpec spec action with
    | ok bound =>
      rw [hbind] at hrun
      cases hrun
    | error e' =>
      rw [hbind] at hrun
      cases hrun
      rfl

/-- The key of a colon with all modifiers in the command layer, which is not bound, and a dash with
Alt, which is, in the insert layer, where a mark may be left out. -/
theorem bindSpec_display_signs :
    let m := (Keymap.ofMode .vi).bind .insert (.alt '-') "undo"
    let colon : Key := ⟨.char ':', ⟨true, true, true⟩⟩
    let dash : Key := .alt '-'
    ((∀ c, colon.code = .char c → colon.mods.ctrl = true → ¬('A' ≤ c ∧ c ≤ 'Z')) ∧
      ∀ c, dash.code = .char c → dash.mods.ctrl = true → ¬('A' ≤ c ∧ c ≤ 'Z')) ∧
      (∃ after, m.bindSpec "command:ctrl-alt-shift-:".toList "yank" = .ok (after, none) ∧
        after.lookup .command colon = some "yank") ∧
      ∃ after, m.bindSpec "alt--".toList "yank" = .ok (after, some "undo") ∧
        after.lookup .insert dash = some "yank" := by
  intro m colon dash
  have hcolon : ∀ c, colon.code = .char c → colon.mods.ctrl = true → ¬('A' ≤ c ∧ c ≤ 'Z') := by
    intro c hc _
    cases hc
    decide
  have hdash : ∀ c, dash.code = .char c → dash.mods.ctrl = true → ¬('A' ≤ c ∧ c ≤ 'Z') := by
    intro c _ hctrl
    cases hctrl
  refine ⟨⟨hcolon, hdash⟩, ?_, ?_⟩
  · obtain ⟨after, hbind, hbound, -⟩ := (bindSpec_display m .command colon "yank" hcolon).1
      "command:".toList (by decide)
    exact ⟨after, hbind, hbound⟩
  · obtain ⟨after, hbind, hbound, -⟩ := (bindSpec_display m .insert dash "yank" hdash).1
      [] (by decide)
    exact ⟨after, hbind, hbound⟩

end Keymap

end LineEditor
