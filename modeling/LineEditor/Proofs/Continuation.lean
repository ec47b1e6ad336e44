import LineEditor.Editor.Accept

/-!
# Lines that are joined to an entry

An entry of several physical lines is told from the lines alone: comments are left out, and each
line that goes on is followed by a line separator. What a line itself contributes depends on the
backslashes at its end. A run of odd length escapes the line break, and its last backslash is not
part of the entry; a run of even length is a row of escaped backslashes.

## Main definitions

* `Text.backslashRun` is the number of backslashes at the end of a text, and `Text.isComment` tells
  comments.
* `Text.continued` is what a line contributes, and `Text.joined` the entry.

## Main results

* `Text.endsInEscape_trim` — trimming a line does not change whether it escapes its line break.
* `Text.joined_dropContinuation_eq_iff` — for which lines dropping one backslash of every line joins
  the same entry.
-/

namespace LineEditor

namespace Text

/-- The number of backslashes at the end of a text. -/
def backslashRun (t : Text) : Nat :=
  (t.reverse.takeWhile (· = '\\')).length

/-- A comment: the first character that is not white space is a number sign. -/
def isComment (t : Text) : Bool :=
  t.trimStart.head? = some '#'

/-- What a line that goes on contributes to the entry: all of it but a backslash that escapes the
line break. -/
def continued (t : Text) : Text :=
  if t.backslashRun % 2 = 1 then t.dropLast else t

/-- What a line that goes on adds to the entry, if `part` is what it contributes. -/
def piece (part : Text → Text) (line : Text) : Text :=
  if line.isComment then [] else part line ++ [Screen.lineSeparator]

/-- The entry that is joined from some lines that go on and the last one. -/
def joined (part : Text → Text) (lines : List Text) (last : Text) : Text :=
  lines.flatMap (piece part) ++ last

/-! ### Backslashes at the end -/

theorem not_isBlank_backslash : Unicode.isBlank '\\' = false := by decide

theorem ne_backslash_of_isBlank {c : Char} (h : Unicode.isBlank c = true) : c ≠ '\\' := by
  rintro rfl
  rw [not_isBlank_backslash] at h
  contradiction

/-- A character in front that is not a backslash does not count. -/
theorem backslashRun_cons_of_ne {c : Char} (h : c ≠ '\\') (t : Text) :
    backslashRun (c :: t) = backslashRun t := by
  have hc : [c].takeWhile (· = '\\') = [] := by simp [h]
  rw [backslashRun, List.reverse_cons, List.takeWhile_append, hc]
  split
  · next hall => rw [List.append_nil, backslashRun, hall]
  · rfl

theorem backslashRun_trimStart (t : Text) : backslashRun (trimStart t) = backslashRun t := by
  induction t with
  | nil => rfl
  | cons c t ih =>
    rw [trimStart, List.dropWhile_cons]
    split
    · next hblank =>
      rw [backslashRun_cons_of_ne (ne_backslash_of_isBlank hblank)]
      exact ih
    · rfl

/-- White space in front of a backslash is kept, so that the run of backslashes behind it is. -/
theorem takeWhile_dropUnescapedBlanks (t : Text) :
    (dropUnescapedBlanks t).takeWhile (· = '\\') = t.takeWhile (· = '\\') := by
  induction t using dropUnescapedBlanks.induct with
  | case1 => rfl
  | case2 c hblank =>
    have hc := ne_backslash_of_isBlank hblank
    simp [dropUnescapedBlanks, hblank, hc]
  | case3 c hblank => simp [dropUnescapedBlanks, hblank]
  | case4 c d rest h ih =>
    obtain ⟨hblank, hd⟩ := Bool.and_eq_true_iff.mp h
    have hc := ne_backslash_of_isBlank hblank
    have hd : d ≠ '\\' := by simpa using hd
    rw [dropUnescapedBlanks, if_pos h, ih]
    simp [hc, hd]
  | case5 c d rest h => rw [dropUnescapedBlanks, if_neg h]

theorem backslashRun_trim (t : Text) : backslashRun (trim t) = backslashRun t := by
  rw [backslashRun, trim, List.reverse_reverse, takeWhile_dropUnescapedBlanks]
  exact backslashRun_trimStart t

/-- Trimming a line does not change whether it escapes its line break. -/
theorem endsInEscape_trim (t : Text) : (trim t).endsInEscape = decide (t.backslashRun % 2 = 1) := by
  rw [← backslashRun_trim]
  rfl

theorem backslashRun_eq_zero_iff (t : Text) :
    t.backslashRun = 0 ↔ t.getLast? ≠ some '\\' := by
  rw [backslashRun, List.length_eq_zero_iff, List.getLast?_eq_head?_reverse]
  cases t.reverse with
  | nil => simp
  | cons c rest =>
    rw [List.takeWhile_cons]
    by_cases hc : c = '\\'
    · simp [hc]
    · simp [hc]

/-- A text that ends in a backslash has no white space at its end. -/
theorem trimEnd_of_backslashRun_ne_zero {t : Text} (h : t.backslashRun ≠ 0) : trimEnd t = t := by
  have hlast : t.reverse.head? = some '\\' := by
    rw [ne_eq, backslashRun_eq_zero_iff, Decidable.not_not] at h
    rwa [← List.getLast?_eq_head?_reverse]
  rw [trimEnd]
  cases hrev : t.reverse with
  | nil => simp [hrev] at hlast
  | cons c rest =>
    obtain rfl : c = '\\' := by simpa [hrev] using hlast
    rw [List.dropWhile_cons_of_neg (by simp [not_isBlank_backslash]), ← hrev, List.reverse_reverse]

/-! ### Comments -/

/-- A character that is not white space stays at the other end when white space is removed. -/
theorem getLast?_dropUnescapedBlanks {t : Text} {c : Char} (hlast : t.getLast? = some c)
    (hc : Unicode.isBlank c = false) : (dropUnescapedBlanks t).getLast? = some c := by
  induction t using dropUnescapedBlanks.induct with
  | case1 => simp at hlast
  | case2 d hblank =>
    obtain rfl : d = c := by simpa using hlast
    rw [hblank] at hc
    contradiction
  | case3 d hblank => simpa [dropUnescapedBlanks, hblank] using hlast
  | case4 d d' rest h ih =>
    rw [dropUnescapedBlanks, if_pos h]
    exact ih (by simpa using hlast)
  | case5 d d' rest h =>
    rw [dropUnescapedBlanks, if_neg h]
    exact hlast

theorem head?_trim (t : Text) : (trim t).head? = (trimStart t).head? := by
  rw [trim, List.head?_reverse]
  cases h : trimStart t with
  | nil => rfl
  | cons c rest =>
    have hc : Unicode.isBlank c = false := by
      have hhead := List.head?_dropWhile_not Unicode.isBlank t
      rw [← trimStart, h] at hhead
      simpa using hhead
    exact getLast?_dropUnescapedBlanks (by simp) hc

theorem head?_trim_eq_some_iff (t : Text) :
    (trim t).head? = some '#' ↔ t.isComment = true := by
  rw [head?_trim, isComment, decide_eq_true_iff]

/-! ### Joining -/

theorem dropContinuation_eq (t : Text) :
    Buffer.dropContinuation t = if t.backslashRun = 0 then t else t.dropLast := by
  rw [Buffer.dropContinuation]
  by_cases hrun : t.backslashRun = 0
  · rw [if_pos hrun, if_neg (t.backslashRun_eq_zero_iff.mp hrun)]
  · have hlast : t.getLast? = some '\\' :=
      Decidable.not_not.mp (mt t.backslashRun_eq_zero_iff.mpr hrun)
    rw [if_neg hrun, if_pos hlast]

theorem ne_nil_of_backslashRun_ne_zero {t : Text} (h : t.backslashRun ≠ 0) : t ≠ [] := by
  rintro rfl
  exact h rfl

/-- Dropping one backslash is right unless it is the last one of a row of escaped ones. -/
theorem dropContinuation_eq_continued_iff (t : Text) :
    Buffer.dropContinuation t = t.continued ↔ (t.backslashRun % 2 = 0 → t.backslashRun = 0) := by
  rw [dropContinuation_eq, continued]
  by_cases hrun : t.backslashRun = 0
  · simp [hrun]
  · by_cases hodd : t.backslashRun % 2 = 1
    · simp [hrun, hodd]
    · have hne : t.dropLast ≠ t := by
        intro heq
        have hlength := congrArg List.length heq
        have hpos := List.length_pos_iff.mpr (ne_nil_of_backslashRun_ne_zero hrun)
        rw [List.length_dropLast] at hlength
        omega
      have heven : t.backslashRun % 2 = 0 := by omega
      simp [hrun, heven, hne]

theorem length_dropContinuation_le (t : Text) :
    (Buffer.dropContinuation t).length ≤ t.continued.length := by
  rw [dropContinuation_eq, continued]
  by_cases hrun : t.backslashRun = 0
  · simp [hrun]
  · rw [if_neg hrun]
    split
    · exact Nat.le_refl _
    · rw [List.length_dropLast]
      exact Nat.sub_le _ _

theorem piece_eq_iff {part part' : Text → Text} {line : Text} :
    piece part line = piece part' line ↔ (line.isComment = false → part line = part' line) := by
  rw [piece, piece]
  cases line.isComment with
  | true => simp
  | false => simp

section Joined

variable {part part' : Text → Text}

theorem joined_cons (line : Text) (lines : List Text) (last : Text) :
    joined part (line :: lines) last = piece part line ++ joined part lines last := by
  rw [joined, List.flatMap_cons, List.append_assoc, joined]

theorem length_piece_le {line : Text} (h : (part line).length ≤ (part' line).length) :
    (piece part line).length ≤ (piece part' line).length := by
  rw [piece, piece]
  split
  · exact Nat.le_refl _
  · simpa using h

theorem length_joined_le (hlength : ∀ line, (part line).length ≤ (part' line).length)
    (lines : List Text) (last : Text) :
    (joined part lines last).length ≤ (joined part' lines last).length := by
  induction lines with
  | nil => exact Nat.le_refl _
  | cons line lines ih =>
    rw [joined_cons, joined_cons, List.length_append, List.length_append]
    exact Nat.add_le_add (length_piece_le (hlength line)) ih

/-- Where one way to contribute never gives more than another, entries are joined alike only if
each line contributes alike: no line makes up for what another one lacks. -/
theorem joined_eq_iff (hlength : ∀ line, (part line).length ≤ (part' line).length)
    (lines : List Text) (last : Text) :
    joined part lines last = joined part' lines last ↔
      ∀ line ∈ lines, line.isComment = false → part line = part' line := by
  induction lines with
  | nil => simp [joined]
  | cons line lines ih =>
    rw [List.forall_mem_cons, ← ih, ← piece_eq_iff, joined_cons, joined_cons]
    constructor
    · -- no part may be shorter on the left, or the rest could not make up for it
      intro h
      have hsum := congrArg List.length h
      rw [List.length_append, List.length_append] at hsum
      have hpiece := length_piece_le (hlength line)
      have hjoined := length_joined_le hlength lines last
      exact List.append_inj h (by omega)
    · rintro ⟨hpiece, hjoined⟩
      rw [hpiece, hjoined]

end Joined

/-- Dropping one backslash of every line that ends in one joins the right entry exactly if no line
ends in a row of escaped backslashes. -/
theorem joined_dropContinuation_eq_iff (lines : List Text) (last : Text) :
    joined Buffer.dropContinuation lines last = joined continued lines last ↔
      ∀ line ∈ lines, line.isComment = false → line.backslashRun % 2 = 0 →
        line.backslashRun = 0 := by
  rw [joined_eq_iff length_dropContinuation_le]
  simp only [dropContinuation_eq_continued_iff]

end Text

end LineEditor
