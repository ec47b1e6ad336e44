import LineEditor.Text.Basic

/-!
# Wrapping at spaces

Lines are filled greedily with whole words, separated by one space each.

## Main definitions

* `Text.wrap`.
-/

namespace LineEditor.Text

/-- The lines made of `current`, the line being filled, and the words that follow. -/
def wrapWords (size : Nat) (current : Text) : List Text → List Text
  | [] => if current.isEmpty then [] else [current]
  | word :: rest =>
    if current.isEmpty then wrapWords size word rest
    else if current.length + 1 + word.length ≤ size then
      wrapWords size (current ++ ' ' :: word) rest
    else current :: wrapWords size word rest

/-- The words of the text in lines of at most `size` characters; a word that is longer has a line
of its own. -/
def wrap (size : Nat) (t : Text) : List Text :=
  wrapWords size [] (words t)

end LineEditor.Text
