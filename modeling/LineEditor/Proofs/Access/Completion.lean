import LineEditor.Completion
import LineEditor.Proofs.Access.Scan

/-!
# Completion with checked accesses

A completion counts characters: those of the white space that is removed in front of the line, those
of the word that was typed before the cursor, and those of a candidate that need not be inserted.
None of the differences is negative: a part of a text is not longer than the text, and a word that
was typed without its escapes is not longer than with them.

## Main definitions

* `CompletionRequest.ofLine?`, `CompletionRequest.formattedCandidates?`, `Completer.wordList?` and
  `Completer.firstListed?` are the steps of a completion with checked accesses.

## Main results

* `Completer.firstListed?_eq` — what vocabularies answer to a line, with all accesses in range.
-/

namespace LineEditor

open Access

namespace CompletionRequest

/-- A request for a line, from which white space in front is removed. -/
def ofLine? (line : Text) (cursor : Nat) : Option CompletionRequest :=
  if line.head? = some ' ' then do
    let trimmed := Text.trimStart line
    let removed ← minus? line.length trimmed.length
    pure { line := trimmed, cursor := cursor - removed, untrimmed := some line }
  else pure { line, cursor }

/-- The number of characters typed of the completed word. -/
def typedLength? (r : CompletionRequest) : Option Nat :=
  if r.offset < r.cursor then minus? r.cursor r.offset else pure 0

/-- The candidates without the part that has been typed. -/
def formattedCandidates? (r : CompletionRequest) : Option (List Text) :=
  if r.ignoreOffset then pure r.candidates
  else do
    let typed ← r.typedLength?
    pure (r.candidates.map (·.drop typed))

theorem ofLine?_eq (line : Text) (cursor : Nat) :
    ofLine? line cursor = some (ofLine line cursor) := by
  have htrimmed : (Text.trimStart line).length ≤ line.length :=
    (List.dropWhile_sublist Unicode.isBlank).length_le
  rw [ofLine?, ofLine]
  dsimp only
  rw [minus?_eq htrimmed]
  split
  · rfl
  · rfl

theorem typedLength?_eq (r : CompletionRequest) : r.typedLength? = some r.typedLength := by
  rw [typedLength?, typedLength]
  split
  · next htyped => exact minus?_eq (Nat.le_of_lt htyped)
  · next hnone =>
    rw [Nat.sub_eq_zero_of_le (Nat.not_lt.mp hnone)]
    rfl

theorem formattedCandidates?_eq (r : CompletionRequest) :
    r.formattedCandidates? = some r.formattedCandidates := by
  rw [formattedCandidates?, formattedCandidates, typedLength?_eq]
  split
  · rfl
  · rfl

end CompletionRequest

namespace Completer

/-- Completes the word before the cursor from a fixed vocabulary. -/
def wordList? (vocabulary : List Text) (r : CompletionRequest) : Option CompletionRequest := do
  let word ← lastWord? (r.line.take r.cursor)
  let typed := Text.unescapeSpaces word
  let hits := vocabulary.filter (typed.isPrefixOf ·)
  if hits.isEmpty then pure r
  else do
    let offset ← minus? r.cursor typed.length
    pure ({ r with offset }.addCandidates hits)

/-- The answer of the first vocabulary that has candidates. -/
def firstListed? (line : Text) (cursor : Nat) :
    List (List Text) → Option (Option CompletionRequest)
  | [] => pure none
  | vocabulary :: rest => do
    let request ← CompletionRequest.ofLine? line cursor
    let answer ← wordList? vocabulary request
    if answer.candidates.isEmpty then firstListed? line cursor rest else pure (some answer)

/-- What was typed of a word stands before the cursor. -/
theorem length_typed_le (r : CompletionRequest) :
    (Text.unescapeSpaces (Text.lastWord (r.line.take r.cursor))).length ≤ r.cursor := by
  calc (Text.unescapeSpaces (Text.lastWord (r.line.take r.cursor))).length
    _ ≤ (Text.lastWord (r.line.take r.cursor)).length := length_unescapeSpaces_le _
    _ ≤ (r.line.take r.cursor).length := length_lastWord_le _
    _ ≤ r.cursor := List.length_take_le _ _

theorem wordList?_eq (vocabulary : List Text) (r : CompletionRequest) :
    wordList? vocabulary r = some (wordList vocabulary r) := by
  rw [wordList?, lastWord?_eq, wordList]
  show (if List.isEmpty _ then _ else do let offset ← minus? r.cursor _; _) = _
  rw [minus?_eq (length_typed_le r)]
  split
  · rfl
  · rfl

theorem firstListed?_eq (vocabularies : List (List Text)) (line : Text) (cursor : Nat) :
    firstListed? line cursor vocabularies =
      some (firstAnswer? (vocabularies.map wordList) line cursor) := by
  induction vocabularies with
  | nil => rfl
  | cons vocabulary rest ih =>
    rw [firstListed?, CompletionRequest.ofLine?_eq]
    show (do let answer ← wordList? vocabulary (.ofLine line cursor); _) = _
    rw [wordList?_eq, firstAnswer?, List.map_cons, List.map_cons, List.find?_cons]
    show (if (wordList vocabulary (.ofLine line cursor)).candidates.isEmpty then _ else _) = _
    cases (wordList vocabulary (.ofLine line cursor)).candidates.isEmpty with
    | true => exact ih
    | false => rfl

end Completer

end LineEditor
