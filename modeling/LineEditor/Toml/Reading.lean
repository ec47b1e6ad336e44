import LineEditor.Toml.Quoted
import LineEditor.Toml.Scalar

/-!
# Reading TOML documents

A document is a list of lines, each a statement, a header or nothing, with a comment perhaps. An
error anywhere makes the whole document unreadable.

## Main definitions

* `value?` reads a value.
* `Table.ofText?` reads a document.
-/

namespace LineEditor.Toml

/-- How deep arrays and tables in braces may lie in each other. -/
def nestingLimit : Nat := 80

/-- How many keys may be joined by dots. -/
def keyLimit : Nat := 80

/-- Blanks removed from the front. -/
def dropGaps (t : Text) : Text := t.dropWhile isGap

/-- A comment removed from the front, if there is one behind blanks. -/
def dropComment (t : Text) : Text :=
  match dropGaps t with
  | '#' :: rest => rest.dropWhile isVisible
  | t => t

/-- The rest behind the end of a line on which nothing but a comment is left. -/
def behindRestOfLine? (t : Text) : Option Text :=
  match dropComment t with
  | [] => some []
  | t => behindLineEnd? t

/-- Blanks, comments and line ends removed from the front. -/
def dropSpace (inComment : Bool) : Text → Text
  | [] => []
  | '\r' :: '\n' :: rest => dropSpace false rest
  | c :: rest =>
    if c = '\n' then dropSpace false rest
    else if inComment then if isVisible c then dropSpace true rest else c :: rest
    else if c = '#' then dropSpace true rest
    else if isGap c then dropSpace false rest
    else c :: rest

/-- The characters of keys without quotes. -/
def isKeyChar (c : Char) : Bool :=
  c.isAlphanum || c = '_' || c = '-'

/-- One key. -/
def simpleKey? : Text → Option (Text × Text)
  | '"' :: rest => basic? rest
  | '\'' :: rest => literal? rest
  | t => if (t.takeWhile isKeyChar).isEmpty then none
         else some (t.takeWhile isKeyChar, t.dropWhile isKeyChar)

/-- At most `limit` keys joined by dots, with blanks around them. -/
def keysWithin : Nat → Text → Option (List Text × Text)
  | 0, _ => none
  | limit + 1, t => do
    let (key, rest) ← simpleKey? (dropGaps t)
    match dropGaps rest with
    | '.' :: rest =>
      let (keys, rest) ← keysWithin limit rest
      return (key :: keys, rest)
    | rest => return ([key], rest)

/-- Keys joined by dots: the path and the last key. -/
def dottedKey? (t : Text) : Option ((List Text × Text) × Text) := do
  let (keys, rest) ← keysWithin keyLimit t
  return ((keys.dropLast, ← keys.getLast?), rest)

/-- A value without quotes or brackets. A date may be followed by a space and a time. -/
def scalar? (t : Text) : Option (Value × Text) := do
  let lexeme := t.takeWhile isLexemeChar
  let rest := t.dropWhile isLexemeChar
  let (lexeme, rest) :=
    match rest with
    | ' ' :: c :: more =>
      -- everywhere else a blank ends the lexeme
      if isDate lexeme ∧ c.isDigit then
        (lexeme ++ ' ' :: (c :: more).takeWhile isLexemeChar, more.dropWhile isLexemeChar)
      else (lexeme, rest)
    | rest => (lexeme, rest)
  return (← Value.ofLexeme? lexeme, rest)

mutual

/-- Reads a value in at most `fuel` steps. `depth` says how many brackets may still be opened. -/
def valueWithin : Nat → Nat → Text → Option (Value × Text)
  | 0, _, _ => none
  | fuel + 1, depth, t =>
    match t with
    -- three quotes in a row open a long text, though two of them would be an empty one
    | '"' :: '"' :: '"' :: rest => (longBasic? rest).map fun (s, rest) => (.text s, rest)
    | '\'' :: '\'' :: '\'' :: rest => (longLiteral? rest).map fun (s, rest) => (.text s, rest)
    | '"' :: rest => (basic? rest).map fun (s, rest) => (.text s, rest)
    | '\'' :: rest => (literal? rest).map fun (s, rest) => (.text s, rest)
    | '[' :: rest => if depth = 0 then none else itemsWithin fuel (depth - 1) [] rest
    | '\x7b' :: rest => if depth = 0 then none else fieldsWithin fuel (depth - 1) ⟨.braces, []⟩ rest
    | t => scalar? t

/-- Reads the items of an array behind those in `items`, up to the closing bracket. -/
def itemsWithin : Nat → Nat → List Value → Text → Option (Value × Text)
  | 0, _, _, _ => none
  | fuel + 1, depth, items, t =>
    match dropSpace false t with
    | ']' :: rest => some (.array false items, rest)
    | t => do
      let (item, rest) ← valueWithin fuel depth t
      match dropSpace false rest with
      | ',' :: rest => itemsWithin fuel depth (items ++ [item]) rest
      | ']' :: rest => some (.array false (items ++ [item]), rest)
      | _ => none

/-- Reads the fields of a table in braces behind those in `table`, up to the closing brace. Unlike
in a statement, lines may end on both sides of the equals sign. -/
def fieldsWithin : Nat → Nat → Table → Text → Option (Value × Text)
  | 0, _, _, _ => none
  | fuel + 1, depth, table, t =>
    match dropSpace false t with
    | '\x7d' :: rest => some (table.toValue, rest)
    | t => do
      let ((path, key), rest) ← dottedKey? t
      let rest ← behind? '=' (dropSpace false rest)
      let (v, rest) ← valueWithin fuel depth (dropSpace false rest)
      let table ← table.assign path key v
      match dropSpace false rest with
      | ',' :: rest => fieldsWithin fuel depth table rest
      | '\x7d' :: rest => some (table.toValue, rest)
      | _ => none

end

/-- Reads a value. Every step of the reader takes a character, apart from the one that goes into
the first item of a bracket. -/
def value? (t : Text) : Option (Value × Text) :=
  valueWithin (2 * t.length + 2) nestingLimit t

/-- Reads one line that is not empty. -/
def line? (d : Document) (t : Text) : Option (Document × Text) := do
  let (d, rest) ←
    match t with
    -- the second bracket follows at once, with no blank between
    | '[' :: '[' :: rest => do
      let ((path, key), rest) ← dottedKey? rest
      pure (← d.openElement path key, ← behind? ']' (← behind? ']' rest))
    | '[' :: rest => do
      let ((path, key), rest) ← dottedKey? rest
      pure (← d.openTable path key, ← behind? ']' rest)
    | t => do
      let ((path, key), rest) ← dottedKey? t
      let (v, rest) ← value? (dropGaps (← behind? '=' rest))
      pure (← d.assign path key v, rest)
  return (d, ← behindRestOfLine? rest)

/-- Reads at most `fuel` lines. -/
def linesWithin : Nat → Document → Text → Option Document
  | 0, _, _ => none
  | fuel + 1, d, t =>
    match dropSpace false t with
    | [] => some d
    | t => do
      let (d, rest) ← line? d t
      linesWithin fuel d rest

/-- A text without the mark that may tell the order of its octets. -/
def dropOrderMark : Text → Text
  | '\ufeff' :: rest => rest
  | t => t

/-- Reads a document. -/
def Table.ofText? (t : Text) : Option Table :=
  let body := dropOrderMark t
  (linesWithin (body.length + 1) {} body).map (·.root)

end LineEditor.Toml
