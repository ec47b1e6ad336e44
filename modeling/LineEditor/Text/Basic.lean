import LineEditor.Unicode.Blank

/-!
# Texts

A text is a list of code points, and positions, lengths and cursors count code points. This
module holds what is said about texts in general; backslashes, quotes and cells have modules of
their own.

## Main definitions

* `Text`, `Text.isBlank`, `Text.trimStart`, `Text.trimEnd`.
* `Text.splitOn`, `Text.lines` and `Text.words` cut a text at a character.
* `Text.commonStart` is the longest text that every member of a list starts with.
-/

namespace LineEditor

/-- A text is a list of code points. -/
abbrev Text := List Char

namespace Text

/-- The text is empty or holds nothing but white space. -/
def isBlank (t : Text) : Bool :=
  t.all Unicode.isBlank

/-- The text without the white space in front. -/
def trimStart (t : Text) : Text :=
  t.dropWhile Unicode.isBlank

/-- The text without the white space at its end. -/
def trimEnd (t : Text) : Text :=
  (t.reverse.dropWhile Unicode.isBlank).reverse

/-- The text without the white space at both ends. -/
def trimBoth (t : Text) : Text :=
  trimEnd (trimStart t)

/-- The pieces between the occurrences of `sep`: one more than there are occurrences. -/
def splitOn (sep : Char) : Text → List Text
  | [] => [[]]
  | c :: rest =>
    if c = sep then [] :: splitOn sep rest
    else
      match splitOn sep rest with
      | [] => [[c]]
      | piece :: pieces => (c :: piece) :: pieces

/-- The text without the one return that may stand at its end. -/
def dropReturn (t : Text) : Text :=
  if t.getLast? = some '\r' then t.dropLast else t

/-- The lines of a text. A line ends at a line feed, together with one return in front of it; the
last line need not have an end, and an empty one without an end is none. -/
def lines (t : Text) : List Text :=
  let pieces := splitOn '\n' t
  pieces.dropLast.map dropReturn ++ (pieces.getLast?.filter (!·.isEmpty)).toList

/-- The non-empty pieces between spaces. -/
def words (t : Text) : List Text :=
  (splitOn ' ' t).filter (!·.isEmpty)

/-- The longest common start of two texts. -/
def commonStart₂ : Text → Text → Text
  | a :: s, b :: t => if a = b then a :: commonStart₂ s t else []
  | _, _ => []

/-- The longest text that every member of the list starts with; empty for an empty list. -/
def commonStart : List Text → Text
  | [] => []
  | first :: rest => rest.foldl commonStart₂ first

/-- The text after enough spaces to make it `width` characters long. -/
def padLeft (width : Nat) (t : Text) : Text :=
  List.replicate (width - t.length) ' ' ++ t

/-- The first word, where words are ended by spaces and white space in front is skipped. -/
def firstWord (t : Text) : Text :=
  (trimStart t).takeWhile (· ≠ ' ')

/-- Whether `part` occurs in `t` as a run of neighbours. -/
def occursIn (part t : Text) : Bool :=
  match t with
  | [] => part.isEmpty
  | c :: rest => part.isPrefixOf (c :: rest) || occursIn part rest

/-- ASCII letters in lower case, all other characters as they are. -/
def lowerAscii (t : Text) : Text :=
  t.map Char.toLower

/-- What a table of lower-case names holds for a name written in any case. -/
def named? {α : Type} (table : List (String × α)) (name : Text) : Option α :=
  (table.find? fun entry => entry.1.toList = lowerAscii name).map (·.2)

/-- The decimal digits of a number. -/
def ofNat (n : Nat) : Text :=
  Nat.toDigits 10 n

/-- The pieces are those of the library's `List.splitOn`. -/
theorem splitOn_eq (sep : Char) (t : Text) : splitOn sep t = List.splitOn sep t := by
  induction t with
  | nil => rw [splitOn, List.splitOn_nil]
  | cons c t ih =>
    rw [splitOn, List.splitOn_cons_eq_if_modifyHead, ih]
    by_cases hc : c = sep
    · rw [if_pos hc, if_pos (beq_iff_eq.mpr hc)]
    · rw [if_neg hc, if_neg (mt beq_iff_eq.mp hc)]
      -- the first piece takes the character
      obtain ⟨piece, pieces, hpieces⟩ := List.exists_cons_of_ne_nil (List.splitOn_ne_nil sep t)
      rw [hpieces]
      rfl

@[simp]
theorem splitOn_ne_nil (sep : Char) (t : Text) : splitOn sep t ≠ [] := by
  rw [splitOn_eq]
  exact List.splitOn_ne_nil sep t

/-- A text with a separator in it is cut there. -/
theorem splitOn_append_cons (sep : Char) (s t : Text) :
    splitOn sep (s ++ sep :: t) = splitOn sep s ++ splitOn sep t := by
  simp only [splitOn_eq, List.splitOn_append_cons_self]

theorem splitOn_of_not_mem {sep : Char} {t : Text} (h : sep ∉ t) : splitOn sep t = [t] := by
  rw [splitOn_eq]
  exact List.splitOn_eq_singleton h

/-- No piece holds the separator. -/
theorem not_mem_of_mem_splitOn {sep : Char} {t piece : Text} (h : piece ∈ splitOn sep t) :
    sep ∉ piece := by
  induction t generalizing piece with
  | nil => simp_all [splitOn]
  | cons c t ih =>
    rw [splitOn] at h
    split at h
    · rcases List.mem_cons.mp h with rfl | hmem
      · exact List.not_mem_nil
      · exact ih hmem
    · next hc =>
      obtain ⟨first, others, hpieces⟩ := List.exists_cons_of_ne_nil (splitOn_ne_nil sep t)
      rw [hpieces] at h ih
      rcases List.mem_cons.mp h with rfl | hmem
      · have hfirst := ih List.mem_cons_self
        simp [Ne.symm hc, hfirst]
      · exact ih (List.mem_cons_of_mem first hmem)

@[simp]
theorem commonStart₂_nil_left (t : Text) : commonStart₂ [] t = [] := by
  cases t <;> rfl

@[simp]
theorem commonStart₂_nil_right (t : Text) : commonStart₂ t [] = [] := by
  cases t <;> rfl

@[simp]
theorem commonStart₂_self (t : Text) : commonStart₂ t t = t := by
  induction t with
  | nil => rfl
  | cons c t ih => simp [commonStart₂, ih]

theorem commonStart₂_comm (s t : Text) : commonStart₂ s t = commonStart₂ t s := by
  induction s generalizing t with
  | nil => simp
  | cons a s ih =>
    cases t with
    | nil => simp
    | cons b t =>
      by_cases h : a = b
      · subst h; simp [commonStart₂, ih]
      · simp [commonStart₂, h, Ne.symm h]

theorem length_padLeft (width : Nat) (t : Text) :
    (padLeft width t).length = max width t.length := by
  simp [padLeft]; omega

end Text

end LineEditor
