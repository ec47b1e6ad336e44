import LineEditor.Charset.Utf8
import LineEditor.Text.Escaped

/-!
# Completion

A request describes the line to be completed. A completer answers it by adding candidates, which
are whole words, and by saying where the completed word starts. What the user has typed of that
word is then left out of each candidate, so that only the rest is inserted.

## Main definitions

* `CompletionRequest`, `CompletionRequest.ofLine`.
* `CompletionRequest.formattedCandidates` is what remains of the candidates.
* `Completer` and `Completer.wordList`.
-/

namespace LineEditor

/-- A line to be completed at a cursor, and the answer so far. `offset` is where the completed
word starts, and `untrimmed` is the line before spaces in front of it were removed. -/
structure CompletionRequest where
  line : Text
  cursor : Nat
  untrimmed : Option Text := none
  offset : Nat := 0
  candidates : List Text := []
  separator : Char := ' '
  appendSeparator : Bool := true
  ignoreOffset : Bool := false
  ignoreStartsWith : Bool := false
  ignoreUnescapedSpace : Bool := false
  deriving DecidableEq, Repr

namespace CompletionRequest

/-- A request for a line. When the line starts with a space, the white space in front is removed
and the cursor moves along. -/
def ofLine (line : Text) (cursor : Nat) : CompletionRequest :=
  if line.head? = some ' ' then
    let trimmed := Text.trimStart line
    { line := trimmed, cursor := cursor - (line.length - trimmed.length), untrimmed := some line }
  else
    { line, cursor }

/-- White space in front of the line was removed. -/
def isTrimmed (r : CompletionRequest) : Bool :=
  r.untrimmed.isSome

/-- The number of characters that were removed in front. -/
def trimmedSize (r : CompletionRequest) : Nat :=
  match r.untrimmed with
  | some t => t.length - r.line.length
  | none => 0

/-- Adds candidates behind those that are there. -/
def addCandidates (r : CompletionRequest) (words : List Text) : CompletionRequest :=
  { r with candidates := r.candidates ++ words }

/-- Removes the backslashes in front of spaces in all candidates. -/
def unescapeCandidates (r : CompletionRequest) : CompletionRequest :=
  { r with candidates := r.candidates.map Text.unescapeSpaces }

/-- The number of characters typed of the completed word. -/
def typedLength (r : CompletionRequest) : Nat :=
  r.cursor - r.offset

/-- The candidates without the part that has been typed. -/
def formattedCandidates (r : CompletionRequest) : List Text :=
  if r.ignoreOffset then r.candidates else r.candidates.map (·.drop r.typedLength)

/-- The part of a completion that is still to be inserted. -/
def formattedCompletion (r : CompletionRequest) (completion : Text) : Text :=
  completion.drop r.typedLength

/-- A one-line account of the request, which leaves out what the user typed. -/
def describe (r : CompletionRequest) : Text :=
  let flag (b : Bool) : Text := if b then "true".toList else "false".toList
  "CompleteOperation \x7b buffer_len: ".toList ++ Text.ofNat (Utf8.encode r.line).length ++
    ", cursor: ".toList ++ Text.ofNat r.cursor ++ ", offset: ".toList ++ Text.ofNat r.offset ++
    ", ignore_offset: ".toList ++ flag r.ignoreOffset ++
    ", append_separator: ".toList ++ flag r.appendSeparator ++
    ", candidates: ".toList ++ Text.ofNat r.candidates.length ++ " \x7d".toList

end CompletionRequest

/-- A source of candidates. -/
abbrev Completer := CompletionRequest → CompletionRequest

/-- Completes the word before the cursor from a fixed vocabulary. A word is compared without its
escapes, and what was typed of it is counted without them. -/
def Completer.wordList (vocabulary : List Text) : Completer := fun r =>
  let typed := Text.unescapeSpaces (Text.lastWord (r.line.take r.cursor))
  let hits := vocabulary.filter (typed.isPrefixOf ·)
  if hits.isEmpty then r else { r with offset := r.cursor - typed.length }.addCandidates hits

/-- The answer of the first completer that has candidates. -/
def Completer.firstAnswer? (completers : List Completer) (line : Text) (cursor : Nat) :
    Option CompletionRequest :=
  (completers.map (· (.ofLine line cursor))).find? (!·.candidates.isEmpty)

end LineEditor
