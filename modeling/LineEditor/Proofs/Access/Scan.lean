import LineEditor.Editor.Motion
import LineEditor.Proofs.Access.Basic
import LineEditor.Text.Escaped

/-!
# Scanning a line by index

Words and white space of a line are found by going along its indexes, one at a time, and looking at
the character there or at the one before it. Here these scans are written with checked accesses,
and shown to come to what the definitions on texts say. Each scan begins at a place in the text, and
that is all that is needed: the scans stop at both ends of the text on their own.

## Main definitions

* `Access.stepBack?`, `Access.stepOn?` go on while the characters have a property.
* `Access.wordStart?`, `Access.wordEnd?` — the ends of the words before and behind a place.
* `Access.trim?` — the text without white space at its ends.
* `Access.lastWord?` — what follows the last separating space.

## Main results

* `Access.wordStart?_eq`, `Access.wordEnd?_eq`, `Access.trim?_eq`, `Access.lastWord?_eq`.
-/

namespace LineEditor

namespace Access

variable {t : Text}

/-! ### Words before and behind a place -/

/-- The place where the run of characters with a property begins that ends at a place. -/
def stepBack? (t : Text) (p : Char → Bool) : Nat → Option Nat
  | 0 => some 0
  | place + 1 => do
    let c ← t[place]?
    if p c then stepBack? t p place else some (place + 1)

/-- The place where the run of characters with a property ends that begins at a place. -/
def stepOn? (t : Text) (p : Char → Bool) (place : Nat) : Option Nat :=
  if place < t.length then do
    let c ← t[place]?
    if p c then stepOn? t p (place + 1) else some place
  else some place
termination_by t.length - place

/-- The start of the word before a place. -/
def wordStart? (t : Text) (inWord : Char → Bool) (place : Nat) : Option Nat := do
  let stop ← stepBack? t (!inWord ·) place
  stepBack? t inWord stop

/-- The end of the word behind a place. -/
def wordEnd? (t : Text) (inWord : Char → Bool) (place : Nat) : Option Nat := do
  let start ← stepOn? t (!inWord ·) place
  stepOn? t inWord start

theorem stepBack?_eq (p : Char → Bool) {place : Nat} (h : place ≤ t.length) :
    stepBack? t p place = some (place - ((t.take place).reverse.takeWhile p).length) := by
  induction place with
  | zero => rfl
  | succ place ih =>
    have hlt : place < t.length := h
    rw [stepBack?, List.getElem?_eq_getElem hlt, List.take_succ_eq_append_getElem hlt,
      List.reverse_concat, List.takeWhile_cons]
    show (if p t[place] then stepBack? t p place else some (place + 1)) = _
    split
    · rw [ih (Nat.le_of_lt hlt), List.length_cons, Nat.add_sub_add_right]
    · rfl

theorem stepOn?_eq (p : Char → Bool) {place : Nat} (h : place ≤ t.length) :
    stepOn? t p place = some (place + ((t.drop place).takeWhile p).length) := by
  -- induction on what is left of the text
  induction hleft : t.length - place generalizing place with
  | zero =>
    have hend : place = t.length := by omega
    rw [stepOn?, if_neg (by omega), hend, List.drop_length]
    rfl
  | succ left ih =>
    have hlt : place < t.length := by omega
    rw [stepOn?, if_pos hlt, List.getElem?_eq_getElem hlt, List.drop_eq_getElem_cons hlt,
      List.takeWhile_cons]
    show (if p t[place] then stepOn? t p (place + 1) else some place) = _
    split
    · rw [ih hlt (by omega), List.length_cons, Nat.succ_add]
      rfl
    · rfl

/-- A text consists of its first characters with a property and of what follows. -/
theorem length_takeWhile_eq_sub (p : Char → Bool) (t : Text) :
    (t.takeWhile p).length = t.length - (t.dropWhile p).length := by
  have hlength := congrArg List.length (List.takeWhile_append_dropWhile (p := p) (l := t))
  rw [List.length_append] at hlength
  omega

theorem dropWhile_eq_drop (p : Char → Bool) (t : Text) :
    t.dropWhile p = t.drop (t.takeWhile p).length := by
  have hdrop : (t.takeWhile p ++ t.dropWhile p).drop (t.takeWhile p).length = t.dropWhile p :=
    List.drop_left
  rw [List.takeWhile_append_dropWhile] at hdrop
  exact hdrop.symm

theorem wordStart?_eq (inWord : Char → Bool) {place : Nat} (h : place ≤ t.length) :
    wordStart? t inWord place =
      some (place - Text.firstWordEnd inWord (t.take place).reverse) := by
  rw [wordStart?, stepBack?_eq _ h, Text.firstWordEnd, ← length_takeWhile_eq_sub,
    dropWhile_eq_drop]
  generalize ((t.take place).reverse.takeWhile (!inWord ·)).length = gap
  -- the second scan begins where the first one ended
  have hrest : (t.take place).reverse.drop gap = (t.take (place - gap)).reverse := by
    rw [List.drop_reverse, List.length_take, List.take_take, Nat.min_eq_left h,
      Nat.min_eq_left (Nat.sub_le _ _)]
  rw [hrest]
  show stepBack? t inWord (place - gap) = _
  rw [stepBack?_eq _ (by omega), Nat.sub_sub]

theorem wordEnd?_eq (inWord : Char → Bool) {place : Nat} (h : place ≤ t.length) :
    wordEnd? t inWord place = some (place + Text.firstWordEnd inWord (t.drop place)) := by
  have hgap := (List.takeWhile_sublist (!inWord ·) (l := t.drop place)).length_le
  rw [List.length_drop] at hgap
  rw [wordEnd?, stepOn?_eq _ h, Text.firstWordEnd, ← length_takeWhile_eq_sub, dropWhile_eq_drop,
    List.drop_drop]
  show stepOn? t inWord (place + ((t.drop place).takeWhile (!inWord ·)).length) = _
  rw [stepOn?_eq _ (by omega), Nat.add_assoc]

/-! ### White space at the ends -/

/-- The place behind the last of the first characters that is not white space, or behind white
space that is escaped. -/
def trimmedEnd? (t : Text) : Nat → Option Nat
  | 0 => some 0
  | 1 => do
    let last ← t[0]?
    if Unicode.isBlank last then some 0 else some 1
  | place + 2 => do
    let last ← t[place + 1]?
    if Unicode.isBlank last then do
      let before ← t[place]?
      if before = '\\' then some (place + 2) else trimmedEnd? t (place + 1)
    else some (place + 2)

/-- The text without the white space at both ends, except for escaped white space at the end. -/
def trim? (t : Text) : Option Text := do
  let stop ← trimmedEnd? (Text.trimStart t) (Text.trimStart t).length
  slice? (Text.trimStart t) 0 stop

/-- The last characters of a beginning of the text, the last one first. -/
theorem reverse_take_succ {place : Nat} (h : place < t.length) :
    (t.take (place + 1)).reverse = t[place] :: (t.take place).reverse := by
  rw [List.take_succ_eq_append_getElem h, List.reverse_concat]

theorem trimmedEnd?_eq {place : Nat} (h : place ≤ t.length) :
    trimmedEnd? t place =
      some (Text.dropUnescapedBlanks (t.take place).reverse).length := by
  -- the character before the last one is looked at too, so the first place is a case of its own
  induction place with
  | zero => rfl
  | succ place ih =>
    have hlt : place < t.length := h
    rw [reverse_take_succ hlt]
    cases place with
    | zero =>
      rw [trimmedEnd?, List.getElem?_eq_getElem hlt, List.take_zero, List.reverse_nil,
        Text.dropUnescapedBlanks]
      show (if Unicode.isBlank t[0] then some 0 else some 1) = _
      split
      · rfl
      · rfl
    | succ place =>
      have hbefore : place < t.length := Nat.lt_of_succ_lt hlt
      have hrest := ih (Nat.le_of_lt hlt)
      have hlength : (t.take place).reverse.length = place := by
        rw [List.length_reverse, List.length_take, Nat.min_eq_left (Nat.le_of_lt hbefore)]
      rw [reverse_take_succ hbefore] at hrest ⊢
      rw [trimmedEnd?, List.getElem?_eq_getElem hlt, List.getElem?_eq_getElem hbefore,
        Text.dropUnescapedBlanks]
      show (if Unicode.isBlank t[place + 1] then
        if t[place] = '\\' then some (place + 2) else trimmedEnd? t (place + 1)
        else some (place + 2)) = _
      cases hblank : Unicode.isBlank t[place + 1] with
      | false => simp [hlength]
      | true =>
        by_cases hescaped : t[place] = '\\'
        · simp [hescaped, hlength]
        · simp [hescaped, hrest]

/-- White space is removed at the front of a text written backwards. -/
theorem dropUnescapedBlanks_suffix (t : Text) : Text.dropUnescapedBlanks t <:+ t := by
  fun_induction Text.dropUnescapedBlanks t with
  | case1 => exact List.suffix_rfl
  | case2 c hblank => exact List.nil_suffix
  | case3 c hblank => exact List.suffix_rfl
  | case4 c d rest hblank ih => exact ih.trans (List.suffix_cons _ _)
  | case5 c d rest hblank => exact List.suffix_rfl

theorem trim?_eq (t : Text) : trim? t = some (Text.trim t) := by
  rw [trim?, Text.trim]
  generalize Text.trimStart t = t
  have hsuffix := dropUnescapedBlanks_suffix t.reverse
  have hlength := hsuffix.length_le
  rw [List.length_reverse] at hlength
  have hstart : (Text.dropUnescapedBlanks t.reverse).reverse <+: t := by
    rw [← List.reverse_suffix, List.reverse_reverse]
    exact hsuffix
  rw [trimmedEnd?_eq (Nat.le_refl _), List.take_length]
  show slice? t 0 (Text.dropUnescapedBlanks t.reverse).length = _
  rw [slice?_zero hlength]
  have htake := List.prefix_iff_eq_take.mp hstart
  rw [List.length_reverse] at htake
  rw [← htake]

/-! ### The last word -/

/-- The place behind the last separating space before a place. -/
def lastWordStart? (t : Text) : Nat → Option Nat
  | 0 => some 0
  | 1 => do
    let c ← t[0]?
    if c = ' ' then some 1 else some 0
  | place + 2 => do
    let c ← t[place + 1]?
    if c = ' ' then do
      let before ← t[place]?
      if before = '\\' then lastWordStart? t (place + 1) else some (place + 2)
    else lastWordStart? t (place + 1)

/-- What follows the last separating space. -/
def lastWord? (t : Text) : Option Text := do
  let start ← lastWordStart? t t.length
  slice? t start t.length

theorem lastWordFrom_append (prev : Option Char) (whole s : Text) (c : Char) :
    Text.lastWordFrom prev (whole ++ [c]) (s ++ [c]) =
      if Text.separates (s.getLast?.or prev) c then []
      else Text.lastWordFrom prev whole s ++ [c] := by
  induction s generalizing prev whole with
  | nil =>
    rw [List.nil_append, Text.lastWordFrom, Text.lastWordFrom, Text.lastWordFrom]
    rfl
  | cons d s ih =>
    have hlast : s.getLast?.or (some d) = (d :: s).getLast?.or prev := by
      rw [List.getLast?_cons]
      cases s.getLast? with
      | none => rfl
      | some e => rfl
    rw [List.cons_append, Text.lastWordFrom, Text.lastWordFrom, ← hlast]
    split
    · exact ih (some d) s
    · exact ih (some d) whole

/-- One more character ends the word or belongs to it. -/
theorem lastWord_concat (s : Text) (c : Char) :
    Text.lastWord (s ++ [c]) =
      if Text.separates s.getLast? c then [] else Text.lastWord s ++ [c] := by
  have hconcat := lastWordFrom_append none s s c
  rw [Option.or_none] at hconcat
  exact hconcat

/-- Where the last word of a beginning of the text starts. -/
def StartsLastWord (t : Text) (place start : Nat) : Prop :=
  start ≤ place ∧ (t.take place).drop start = Text.lastWord (t.take place)

/-- Behind a separating space the last word is empty. -/
theorem startsLastWord_of_separates {place : Nat} (h : place < t.length)
    (hsep : Text.separates (t.take place).getLast? t[place] = true) :
    StartsLastWord t (place + 1) (place + 1) := by
  refine ⟨Nat.le_refl _, ?_⟩
  rw [List.take_succ_eq_append_getElem h, lastWord_concat, if_pos hsep]
  apply List.drop_eq_nil_of_le
  rw [List.length_append, List.length_take]
  exact Nat.add_le_add_right (Nat.min_le_left _ _) 1

/-- A character that does not separate belongs to the word found before it. -/
theorem StartsLastWord.succ {place start : Nat} (hstarts : StartsLastWord t place start)
    (h : place < t.length) (hsep : Text.separates (t.take place).getLast? t[place] = false) :
    StartsLastWord t (place + 1) start := by
  obtain ⟨hle, hword⟩ := hstarts
  have hlength : start ≤ (t.take place).length := by
    rw [List.length_take]
    omega
  refine ⟨Nat.le_succ_of_le hle, ?_⟩
  rw [List.take_succ_eq_append_getElem h, lastWord_concat, if_neg (Bool.eq_false_iff.mp hsep),
    List.drop_append_of_le_length hlength, hword]

/-- The scan finds where the last word starts. -/
theorem lastWordStart?_eq {place : Nat} (h : place ≤ t.length) :
    ∃ start, lastWordStart? t place = some start ∧ StartsLastWord t place start := by
  induction place with
  | zero => exact ⟨0, rfl, Nat.le_refl _, rfl⟩
  | succ place ih =>
    have hlt : place < t.length := h
    obtain ⟨start, hstart, hstarts⟩ := ih (Nat.le_of_lt hlt)
    cases place with
    | zero =>
      rw [lastWordStart?, List.getElem?_eq_getElem hlt]
      show ∃ found, (if t[0] = ' ' then some 1 else some 0) = some found ∧ _
      by_cases hspace : t[0] = ' '
      · rw [if_pos hspace]
        exact ⟨1, rfl, startsLastWord_of_separates hlt (by simp [hspace, Text.separates])⟩
      · obtain rfl : 0 = start := Option.some.inj hstart
        rw [if_neg hspace]
        exact ⟨0, rfl, hstarts.succ hlt (by simp [hspace, Text.separates])⟩
    | succ before =>
      have hbefore : before < t.length := Nat.lt_of_succ_lt hlt
      have hlast : (t.take (before + 1)).getLast? = some t[before] := by
        rw [List.take_succ_eq_append_getElem hbefore, List.getLast?_concat]
      rw [lastWordStart?, List.getElem?_eq_getElem hlt, List.getElem?_eq_getElem hbefore]
      show ∃ found, (if t[before + 1] = ' ' then
        if t[before] = '\\' then lastWordStart? t (before + 1) else some (before + 2)
        else lastWordStart? t (before + 1)) = some found ∧ _
      by_cases hspace : t[before + 1] = ' '
      · rw [if_pos hspace]
        by_cases hescape : t[before] = '\\'
        · rw [if_pos hescape]
          exact ⟨start, hstart, hstarts.succ hlt (by simp [hlast, hescape, Text.separates])⟩
        · rw [if_neg hescape]
          refine ⟨before + 2, rfl, startsLastWord_of_separates hlt ?_⟩
          simp [hlast, hspace, hescape]
      · rw [if_neg hspace]
        exact ⟨start, hstart, hstarts.succ hlt (by simp [hspace, Text.separates])⟩

theorem lastWord?_eq (t : Text) : lastWord? t = some (Text.lastWord t) := by
  obtain ⟨start, hstart, hle, hword⟩ := lastWordStart?_eq (Nat.le_refl t.length)
  rw [List.take_length] at hword
  rw [lastWord?, hstart, ← hword]
  exact slice?_length hle

/-- The last word is not longer than the text. -/
theorem length_lastWord_le (t : Text) : (Text.lastWord t).length ≤ t.length := by
  obtain ⟨start, -, -, hword⟩ := lastWordStart?_eq (Nat.le_refl t.length)
  rw [List.take_length] at hword
  rw [← hword, List.length_drop]
  exact Nat.sub_le _ _

theorem length_unescapeSpaces_le (t : Text) : (Text.unescapeSpaces t).length ≤ t.length := by
  fun_induction Text.unescapeSpaces t with
  | case1 => exact Nat.le_refl _
  | case2 rest ih => exact Nat.succ_le_succ (Nat.le_succ_of_le ih)
  | case3 c rest hescaped ih => exact Nat.succ_le_succ ih

end Access

end LineEditor
