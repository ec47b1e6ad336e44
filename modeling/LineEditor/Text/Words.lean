import LineEditor.Text.Basic

/-!
# The words of a line

A line is split into words the way a shell does. Words end at spaces that are neither escaped
nor quoted. A backslash escapes the next character: an escaped space joins words, an escaped
quote or backslash stands for itself, and before any other character the backslash is kept. A
quotation is literal inside one of the other kind. A second double quote directly after the
opening one starts a verbatim part, where everything up to the next pair of double quotes is
taken as it is.

The scan is a machine with one step for each character, and it never fails: a quotation that is
still open at the end is reported next to the words found so far.

## Main definitions

* `WordScan` and `WordScan.step` are the machine.
* `Words.ofLine` is the result for a line, with the word under a cursor when there is one.
-/

namespace LineEditor

/-- What the characters being scanned are inside of. -/
inductive Quoting
  | bare
  | single
  | double
  | verbatim
  deriving DecidableEq, Repr

/-- The scan of a line: the finished words, the word being built, whether a backslash waits for
the character it escapes, the quotation, and the character before. -/
structure WordScan where
  words : List Text := []
  word : Text := []
  escaped : Bool := false
  quoting : Quoting := .bare
  prev : Option Char := none
  deriving DecidableEq, Repr

namespace WordScan

/-- Adds a character to the word being built. -/
def put (s : WordScan) (c : Char) : WordScan :=
  { s with word := s.word ++ [c] }

/-- Adds the character that a backslash was waiting for. -/
def putEscaped (s : WordScan) (c : Char) : WordScan :=
  { s.put c with escaped := false }

/-- Finishes the word being built, even when it is empty. -/
def flush (s : WordScan) : WordScan :=
  { s with words := s.words ++ [s.word], word := [] }

/-- Finishes the word being built unless it is empty. -/
def close (s : WordScan) : WordScan :=
  if s.word.isEmpty then s else s.flush

/-- A space joins when it is escaped or quoted, and ends the word otherwise. -/
def onSpace (s : WordScan) : WordScan :=
  if s.escaped then s.putEscaped ' '
  else if s.quoting = .bare then s.close
  else s.put ' '

/-- A backslash escapes what follows unless it is escaped itself or verbatim. -/
def onBackslash (s : WordScan) : WordScan :=
  if s.escaped || s.quoting = .verbatim then s.putEscaped '\\' else { s with escaped := true }

/-- A single quote opens a quotation in bare text and ends the quotation it opened, and the word
with it. -/
def onSingleQuote (s : WordScan) : WordScan :=
  if s.escaped then s.putEscaped '\''
  else
    match s.quoting with
    | .bare => { s with quoting := .single }
    | .single => { s.close with quoting := .bare }
    | .double => s.put '\''
    | .verbatim => s.putEscaped '\''

/-- A double quote opens a quotation in bare text. A second one right after it starts the
verbatim part, and any other one ends the quotation and the word. Verbatim text ends at a pair,
whose first half has been taken for text and is dropped. -/
def onDoubleQuote (s : WordScan) : WordScan :=
  if s.escaped then s.putEscaped '"'
  else
    match s.quoting with
    | .bare => { s with quoting := .double }
    | .single => s.put '"'
    | .double =>
      if s.prev = some '"' then { s with quoting := .verbatim }
      else { s.close with quoting := .bare }
    | .verbatim =>
      -- the first half of the closing pair was taken for text when it came
      if s.prev = some '"' then { { s with word := s.word.dropLast }.flush with quoting := .bare }
      else s.putEscaped '"'

/-- Any other character keeps the backslash that was waiting for it. -/
def onOther (s : WordScan) (c : Char) : WordScan :=
  if s.escaped then (s.putEscaped '\\').put c else s.put c

/-- One character of the scan. -/
def step (s : WordScan) (c : Char) : WordScan :=
  let next :=
    if c = ' ' then s.onSpace
    else if c = '\\' then s.onBackslash
    else if c = '\'' then s.onSingleQuote
    else if c = '"' then s.onDoubleQuote
    else s.onOther c
  { next with prev := some c }

/-- The scan of a whole text. -/
def ofText (t : Text) : WordScan :=
  t.foldl step {}

/-- The end of the line finishes the last word; a backslash that waits stands for itself. -/
def finish (s : WordScan) : List Text :=
  (if s.escaped then s.put '\\' else s).close.words

/-- Whether a cursor at this place touches the word being built: directly behind a space that
separates it touches nothing. -/
def touches (s : WordScan) : Bool :=
  s.prev != some ' ' || s.escaped

end WordScan

/-- A place in a list of words: which word, and how many of its characters lie before. -/
structure WordPosition where
  index : Nat
  offset : Nat
  deriving DecidableEq, Repr

/-- Where a cursor inside the line stands, given the scan of the text before it. -/
def WordScan.positionInside (s : WordScan) : Option WordPosition :=
  if s.touches then some ⟨s.words.length, s.word.length⟩ else none

/-- Where a cursor at the end of the line stands: directly behind a word that a quote has just
ended it is still at that word. -/
def WordScan.positionAtEnd (s : WordScan) : Option WordPosition :=
  if s.touches then
    match s.words.getLast? with
    | some last =>
      if s.word.isEmpty && !s.escaped then some ⟨s.words.length - 1, last.length⟩
      else some ⟨s.words.length, s.word.length⟩
    | none => some ⟨s.words.length, s.word.length⟩
  else none

/-- Whether every quotation of a line was closed. -/
inductive LineStatus
  | complete
  | unclosedQuote
  deriving DecidableEq, Repr

/-- What is reported for a status; nothing for a complete line. -/
def LineStatus.message : LineStatus → String
  | .complete => ""
  | .unclosedQuote => "unclosed quote"

/-- A line and its words. -/
structure Words where
  line : Text
  words : List Text
  cursor : Option Nat
  position : Option WordPosition
  status : LineStatus
  deriving DecidableEq, Repr

namespace Words

/-- Where the cursor stands among the words of a line. A cursor past the end stands nowhere. -/
def positionAt (line : Text) (cursor : Nat) : Option WordPosition :=
  if cursor < line.length then (WordScan.ofText (line.take cursor)).positionInside
  else if cursor = line.length then (WordScan.ofText line).positionAtEnd
  else none

/-- Splits a line into words and looks up the word under the cursor. -/
def ofLine (line : Text) (cursor : Option Nat) : Words :=
  let scan := WordScan.ofText line
  { line
    words := scan.finish
    cursor
    position := cursor.bind (positionAt line)
    status := if scan.quoting = .bare then .complete else .unclosedQuote }

/-- The word under the cursor, or the empty text when there is none. -/
def selected (w : Words) : Text :=
  (w.position.bind (w.words[·.index]?)).getD []

@[simp]
theorem line_ofLine (line : Text) (cursor : Option Nat) : (ofLine line cursor).line = line := rfl

@[simp]
theorem words_ofLine (line : Text) (cursor : Option Nat) :
    (ofLine line cursor).words = (WordScan.ofText line).finish := rfl

end Words

end LineEditor
