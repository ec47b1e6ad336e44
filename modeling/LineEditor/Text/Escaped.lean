import LineEditor.Text.Basic

/-!
# Escaped spaces and the word at a cursor

A space with a backslash directly before it does not separate words. The functions here look at
that one character only: in a run of several backslashes each one still protects the space
after it.

## Main definitions

* `Text.lastWord` is what follows the last separating space.
* `Text.wordBefore` and `Text.wordAround` are the word at a cursor, cut at the cursor or whole.
* `Text.trim` removes white space at both ends but keeps an escaped one at the end.
* `Text.escapeSpaces` and `Text.unescapeSpaces`.
-/

namespace LineEditor.Text

/-- Whether the character `c` is a space that separates words, `prev` being the one before. -/
def separates (prev : Option Char) (c : Char) : Bool :=
  c == ' ' && prev != some '\\'

/-- What follows the last separating space of a text that comes after `prev`, or `whole` when
there is none. -/
def lastWordFrom (prev : Option Char) (whole : Text) : Text → Text
  | [] => whole
  | c :: rest => lastWordFrom (some c) (if separates prev c then rest else whole) rest

/-- The text after the last separating space, with its escapes. It is empty when the text ends
with such a space. -/
def lastWord (t : Text) : Text :=
  lastWordFrom none t t

/-- The start of a text up to its first separating space, `prev` being the character before. -/
def untilSeparator (prev : Option Char) : Text → Text
  | [] => []
  | c :: rest => if separates prev c then [] else c :: untilSeparator (some c) rest

/-- How often `mark` occurs without a backslash directly before it, `prev` being the character
before the text. -/
def countUnescaped (mark : Char) (prev : Option Char) : Text → Nat
  | [] => 0
  | c :: rest =>
    (if c = mark ∧ prev ≠ some '\\' then 1 else 0) + countUnescaped mark (some c) rest

/-- The number of separating spaces. -/
def separatorCount (t : Text) : Nat :=
  countUnescaped ' ' none t

/-- There is a space, and every space is escaped. -/
def onlyEscapedSpaces (t : Text) : Bool :=
  t.contains ' ' && separatorCount t == 0

/-- A dollar sign occurs without a backslash directly before it. -/
def hasUnescapedDollar (t : Text) : Bool :=
  countUnescaped '$' none t != 0

/-- Every escaped space loses its backslash. -/
def unescapeSpaces : Text → Text
  | [] => []
  | '\\' :: ' ' :: rest => ' ' :: unescapeSpaces rest
  | c :: rest => c :: unescapeSpaces rest

/-- Every space gets a backslash. -/
def escapeSpaces (t : Text) : Text :=
  t.flatMap fun c => if c = ' ' then ['\\', ' '] else [c]

/-- Removes leading white space from a text written backwards, and stops at white space that is
escaped. -/
def dropUnescapedBlanks : Text → Text
  | [] => []
  | [c] => if Unicode.isBlank c then [] else [c]
  | c :: d :: rest =>
    if Unicode.isBlank c && d != '\\' then dropUnescapedBlanks (d :: rest) else c :: d :: rest

/-- The text without the white space at both ends, except that white space at the end with a
backslash directly before it stays. -/
def trim (t : Text) : Text :=
  (dropUnescapedBlanks (trimStart t).reverse).reverse

/-- The word that touches the cursor, cut at the cursor. It is empty when the cursor stands in a
run of two or more spaces. -/
def wordBefore (t : Text) (cursor : Nat) : Text :=
  if 1 < cursor ∧ t[cursor]? = some ' ' ∧ t[cursor - 1]? = some ' ' then
    []
  else
    unescapeSpaces (lastWord (trim (t.take (cursor + 1))))

/-- The whole word nearest to the cursor. A cursor directly behind a word is at that word; a
cursor behind a space and not in front of a word is at none. -/
def wordAround (t : Text) (cursor : Nat) : Text :=
  let before := t.take cursor
  let after := t.drop cursor
  let atEnd := (after.head?.map (separates before.getLast? ·)).getD true
  if atEnd then
    if before.getLast?.getD ' ' = ' ' then []
    else unescapeSpaces (lastWord before)
  else
    unescapeSpaces (lastWord before ++ untilSeparator before.getLast? after)

@[simp]
theorem separates_eq_true_iff {prev : Option Char} {c : Char} :
    separates prev c = true ↔ c = ' ' ∧ prev ≠ some '\\' := by
  simp [separates]

@[simp]
theorem unescapeSpaces_escapeSpaces_of_no_backslash (t : Text) (h : '\\' ∉ t) :
    unescapeSpaces (escapeSpaces t) = t := by
  induction t with
  | nil => rfl
  | cons c t ih =>
    simp only [List.mem_cons, not_or] at h
    have ih := ih h.2
    by_cases hc : c = ' '
    · subst hc
      simpa [escapeSpaces, unescapeSpaces] using ih
    · have he : escapeSpaces (c :: t) = c :: escapeSpaces t := by simp [escapeSpaces, hc]
      rw [he, unescapeSpaces, ih]
      intro rest hr
      exact absurd hr.symm h.1

end LineEditor.Text
