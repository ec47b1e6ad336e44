import LineEditor.Key.Basic

/-!
# Reading keys from code points

A terminal sends a key as one or several code points, in whatever chunks its input was read. The
reader takes one code point at a time and keeps an unfinished sequence for the next chunk.

* Return, line feed and the two together are one Enter.
* An escape with a character after it is that character with Alt. An escape at the end of a chunk
  is the Escape key.
* `ESC [` and `ESC O` start the sequences of cursor keys, with modifiers as parameters.
* Text between `ESC [ 200 ~` and `ESC [ 201 ~` is a paste and is kept as it is.

## Main definitions

* `Token` is what is read: a key or a paste.
* `KeyReader`, `KeyReader.step` and `KeyReader.feed`.
-/

namespace LineEditor

/-- A unit of input. -/
inductive Token
  | key (k : Key)
  /-- Text pasted in one piece. -/
  | paste (t : Text)
  deriving DecidableEq, Repr

/-- What the reader is in the middle of. -/
inductive KeyReader.Mode
  | ground
  /-- An escape has been read. -/
  | escape
  /-- `ESC O` has been read. -/
  | shifted
  /-- `ESC [` and then `body` have been read. -/
  | control (body : Text)
  /-- A paste has started, and `body` has been read of it. -/
  | paste (body : Text)
  deriving DecidableEq, Repr

/-- The reader: what it is in the middle of, and whether a return was just read, so that a line
feed belongs to it. -/
structure KeyReader where
  mode : KeyReader.Mode := .ground
  afterReturn : Bool := false
  deriving DecidableEq, Repr

namespace KeyReader

/-- A control sequence that grows to this length is dropped. -/
def maxSequence : Nat := 16

/-- What ends a paste. -/
def pasteEnd : Text := "\x1b[201~".toList

/-- The parameters of the control sequence that starts a paste. -/
def pasteStart : Text := "200".toList

/-- The letter of a control code in U+0001..U+001A. -/
def letterOf (c : Char) : Char := Char.ofNat (c.toNat + 0x60)

/-- Whether `c` is a control code that stands for a letter. -/
def isLetterCode (c : Char) : Bool := 0x01 ≤ c.toNat && c.toNat ≤ 0x1A

/-- The key that an escape and then `c` stand for. -/
def altKey (c : Char) : Key :=
  if c = '\x7f' ∨ c = '\x08' then ⟨.backspace, ⟨false, true, false⟩⟩
  else if c = '\r' then ⟨.enter, ⟨false, true, false⟩⟩
  else if isLetterCode c then ⟨.char (letterOf c), ⟨true, true, false⟩⟩
  else Key.alt c

/-- The cursor key that a final character names. -/
def cursorKey? (final : Char) : Option KeyCode :=
  match final with
  | 'A' => some .up
  | 'B' => some .down
  | 'C' => some .right
  | 'D' => some .left
  | 'H' => some .home
  | 'F' => some .endKey
  | _ => none

/-- The key that the number in front of a tilde names. -/
def numberedKey? (number : Text) : Option KeyCode :=
  if number = ['1'] ∨ number = ['7'] then some .home
  else if number = ['4'] ∨ number = ['8'] then some .endKey
  else if number = ['3'] then some .delete
  else none

/-- A number of one octet: decimal digits, perhaps after a plus sign. -/
def octet? (t : Text) : Option Nat :=
  let digits := match t with | '+' :: rest => rest | _ => t
  if digits ≠ [] ∧ digits.all Char.isDigit then
    let n := digits.foldl (fun n c => 10 * n + (c.toNat - 0x30)) 0
    if n < 256 then some n else none
  else
    none

/-- The modifiers of a parameter, which is one more than the sum of 1 for Shift, 2 for Alt and 4
for Ctrl. -/
def modifiersOf (param : Nat) : Modifiers :=
  let bits := param - 1
  { ctrl := bits / 4 % 2 = 1, alt := bits / 2 % 2 = 1, shift := bits % 2 = 1 }

/-- The key of a control sequence with parameters `params` and final character `final`. The first
parameter is a number, the second one holds modifiers. -/
def controlKey? (params : Text) (final : Char) : Option Key :=
  let fields := Text.splitOn ';' params
  let mods := ((fields[1]?.bind octet?).map modifiersOf).getD {}
  let code := if final = '~' then numberedKey? (fields.headD []) else cursorKey? final
  code.map (⟨·, mods⟩)

/-- A code point outside any sequence. A line feed after a return adds nothing to it. -/
def stepGround (afterReturn : Bool) (c : Char) : KeyReader × List Token :=
  if c = '\x1b' then ({ mode := .escape }, [])
  else if c = '\r' then ({ afterReturn := true }, [.key (.plain .enter)])
  else if c = '\n' then ({}, if afterReturn then [] else [.key (.plain .enter)])
  else if c = '\t' then ({}, [.key (.plain .tab)])
  else if c = '\x7f' ∨ c = '\x08' then ({}, [.key (.plain .backspace)])
  else if c = '\x00' then ({}, [.key (.ctrl ' ')])
  else if isLetterCode c then ({}, [.key (.ctrl (letterOf c))])
  else if 0x1C ≤ c.toNat ∧ c.toNat ≤ 0x1F then ({}, [.key (.ctrl (Char.ofNat (c.toNat + 0x40)))])
  else if Unicode.isControl c then ({}, [])
  else ({}, [.key (.char c)])

/-- A code point after an escape. A second escape makes the first one a key. -/
def stepEscape (c : Char) : KeyReader × List Token :=
  if c = '[' then ({ mode := .control [] }, [])
  else if c = 'O' then ({ mode := .shifted }, [])
  else if c = '\x1b' then ({ mode := .escape }, [.key (.plain .escape)])
  else ({}, [.key (altKey c)])

/-- A code point inside a control sequence: one in U+0040..U+007E ends it, and too long a
sequence is dropped. -/
def stepControl (body : Text) (c : Char) : KeyReader × List Token :=
  if '@' ≤ c ∧ c ≤ '~' then
    if c = '~' ∧ body = pasteStart then ({ mode := .paste [] }, [])
    else ({}, ((controlKey? body c).map Token.key).toList)
  -- the introducer counts, and so does the code point at hand
  else if body.length + 3 < maxSequence then ({ mode := .control (body ++ [c]) }, [])
  else ({}, [])

/-- A code point of a paste. -/
def stepPaste (body : Text) (c : Char) : KeyReader × List Token :=
  let body := body ++ [c]
  if pasteEnd.isSuffixOf body then
    ({}, [.paste (body.take (body.length - pasteEnd.length))])
  else
    ({ mode := .paste body }, [])

/-- One code point: the reader after it, and the units of input that it completes. -/
def step (r : KeyReader) (c : Char) : KeyReader × List Token :=
  match r.mode with
  | .ground => stepGround r.afterReturn c
  | .escape => stepEscape c
  | .shifted => ({}, ((cursorKey? c).map fun code => Token.key (.plain code)).toList)
  | .control body => stepControl body c
  | .paste body => stepPaste body c

/-- Several code points, one after the other. -/
def steps (r : KeyReader) : Text → KeyReader × List Token
  | [] => (r, [])
  | c :: rest =>
    let (r, first) := r.step c
    let (r, others) := steps r rest
    (r, first ++ others)

/-- The end of a chunk: an escape with nothing after it is the Escape key. -/
def settle (r : KeyReader) : KeyReader × List Token :=
  if r.mode = .escape then ({ r with mode := .ground }, [.key (.plain .escape)]) else (r, [])

/-- Reads one chunk of input. -/
def feed (r : KeyReader) (chunk : Text) : KeyReader × List Token :=
  let (r, tokens) := r.steps chunk
  let (r, last) := r.settle
  (r, tokens ++ last)

/-- A sequence or a paste has started and is not complete. -/
def hasPending (r : KeyReader) : Bool :=
  r.mode ≠ .ground

/-- The code points of the sequence that is being read, which a paste is not. -/
def pending (r : KeyReader) : Text :=
  match r.mode with
  | .ground => []
  | .escape => ['\x1b']
  | .shifted => ['\x1b', 'O']
  | .control body => '\x1b' :: '[' :: body
  | .paste _ => []

@[simp]
theorem steps_nil (r : KeyReader) : r.steps [] = (r, []) := rfl

theorem steps_cons (r : KeyReader) (c : Char) (t : Text) :
    r.steps (c :: t) = (((r.step c).1.steps t).1, (r.step c).2 ++ ((r.step c).1.steps t).2) := rfl

/-- Reading code points one after the other does not depend on where they are cut. -/
theorem steps_append (r : KeyReader) (s t : Text) :
    r.steps (s ++ t) = (((r.steps s).1.steps t).1, (r.steps s).2 ++ ((r.steps s).1.steps t).2) := by
  induction s generalizing r with
  | nil => simp
  | cons c s ih => simp [steps_cons, ih]

end KeyReader

end LineEditor
