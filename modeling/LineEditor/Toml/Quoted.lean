import LineEditor.Text.Basic

/-!
# Quoted texts of a TOML document

A text stands in one pair of quotes on a line, or in two triples of quotes over several lines.
Between double quotes a backslash starts an escape, between single quotes everything stands for
itself. Each reader takes what follows the opening quotes and gives the text together with what
follows the closing ones.

## Main definitions

* `basic?`, `literal?` read texts of one line.
* `longBasic?`, `longLiteral?` read texts of several lines.
-/

namespace LineEditor.Toml

/-- Blanks separate what stands on one line. -/
def isGap (c : Char) : Bool := c = ' ' || c = '\t'

/-- The characters that may stand in a comment or a text: control characters except the tab may
not. -/
def isVisible (c : Char) : Bool := c = '\t' || (' ' ≤ c && c ≠ '\x7f')

/-- The rest behind the end of a line. -/
def behindLineEnd? : Text → Option Text
  | '\n' :: rest => some rest
  | '\r' :: '\n' :: rest => some rest
  | _ => none

/-- What follows the end of a line that comes first, if one does. -/
def dropLineEnd (t : Text) : Text :=
  (behindLineEnd? t).getD t

/-- Blanks and line ends removed from the front. -/
def dropGapsAndLineEnds : Text → Text
  | '\r' :: '\n' :: rest => dropGapsAndLineEnds rest
  | c :: rest => if isGap c || c = '\n' then dropGapsAndLineEnds rest else c :: rest
  | [] => []

/-- What goes on behind a backslash at the end of a line: blanks and line ends are left out. -/
def behindJoin? (t : Text) : Option Text :=
  (behindLineEnd? (t.dropWhile isGap)).map dropGapsAndLineEnds

/-- The value of a hexadecimal digit. -/
def hexValue? (c : Char) : Option Nat :=
  if c.isDigit then some (c.toNat - '0'.toNat)
  else if 'a' ≤ c.toLower ∧ c.toLower ≤ 'f' then some (c.toLower.toNat - 'a'.toNat + 10)
  else none

/-- The character with a code of so many hexadecimal digits, and the rest. -/
def coded? (count : Nat) (t : Text) : Option (Char × Text) := do
  let values ← (t.take count).mapM hexValue?
  let code := values.foldl (fun n v => 16 * n + v) 0
  if values.length = count ∧ code.isValidChar then some (Char.ofNat code, t.drop count) else none

/-- The character that an escape stands for, given what follows its backslash, and the rest. -/
def escaped? : Text → Option (Char × Text)
  | 'b' :: rest => some ('\x08', rest)
  | 't' :: rest => some ('\t', rest)
  | 'n' :: rest => some ('\n', rest)
  | 'f' :: rest => some ('\x0c', rest)
  | 'r' :: rest => some ('\r', rest)
  | 'e' :: rest => some ('\x1b', rest)
  | '"' :: rest => some ('"', rest)
  | '\\' :: rest => some ('\\', rest)
  | 'x' :: rest => coded? 2 rest
  | 'u' :: rest => coded? 4 rest
  | 'U' :: rest => coded? 8 rest
  | _ => none

/-- Puts a character in front of a text that has been read. -/
def prepend (c : Char) (r : Text × Text) : Text × Text := (c :: r.1, r.2)

/-- Reads at most `fuel` characters up to the closing double quote. -/
def basicWithin : Nat → Text → Option (Text × Text)
  | 0, _ => none
  | _ + 1, [] => none
  | _ + 1, '"' :: rest => some ([], rest)
  | fuel + 1, '\\' :: rest => do
    let (c, rest) ← escaped? rest
    return prepend c (← basicWithin fuel rest)
  | fuel + 1, c :: rest => if isVisible c then (basicWithin fuel rest).map (prepend c) else none

/-- A text in double quotes. -/
def basic? (t : Text) : Option (Text × Text) :=
  basicWithin (t.length + 1) t

/-- A text in single quotes. -/
def literal? (t : Text) : Option (Text × Text) :=
  let inside (c : Char) : Bool := c ≠ '\'' && isVisible c
  match t.dropWhile inside with
  | '\'' :: rest => some (t.takeWhile inside, rest)
  | _ => none

/-- The quotes in front of a text when they close it: three of them, and before those up to two
that belong to the text. -/
def closing? (quote : Char) (t : Text) : Option (Text × Text) :=
  let count := (t.takeWhile (· = quote)).length
  if count < 3 then none
  else
    -- of five quotes in a row the first two are text
    let own := min (count - 3) 2
    some (List.replicate own quote, t.drop (own + 3))

/-- Reads at most `fuel` characters up to three closing double quotes. -/
def longBasicWithin : Nat → Text → Option (Text × Text)
  | 0, _ => none
  | _ + 1, [] => none
  | fuel + 1, c :: rest =>
    match closing? '"' (c :: rest) with
    | some done => some done
    | none =>
      if c = '\\' then
        match behindJoin? rest with
        | some rest => longBasicWithin fuel rest
        | none => do
          let (c, rest) ← escaped? rest
          return prepend c (← longBasicWithin fuel rest)
      else if isVisible c || (behindLineEnd? (c :: rest)).isSome then
        (longBasicWithin fuel rest).map (prepend c)
      else none

/-- A text in triples of double quotes. A line end right behind the opening is left out. -/
def longBasic? (t : Text) : Option (Text × Text) :=
  longBasicWithin (t.length + 1) (dropLineEnd t)

/-- What follows the opening of a text in triples of single quotes. -/
def longLiteralFrom : Text → Option (Text × Text)
  | [] => none
  | c :: rest =>
    match closing? '\'' (c :: rest) with
    | some done => some done
    | none =>
      if isVisible c || (behindLineEnd? (c :: rest)).isSome then
        (longLiteralFrom rest).map (prepend c)
      else none

/-- A text in triples of single quotes. A line end right behind the opening is left out. -/
def longLiteral? (t : Text) : Option (Text × Text) :=
  longLiteralFrom (dropLineEnd t)

end LineEditor.Toml
