import LineEditor.Text.Basic

/-!
# Keys

A key is a character or a named key, together with the modifiers held down. A key has a written
name, such as `ctrl-a` or `alt-backspace`, and a spelling as the code points that a terminal
sends for it.

## Main definitions

* `KeyCode`, `Modifiers`, `Key`.
* `Key.printable?` is the character a key types.
* `Key.codePoints` is what a terminal sends.
* `Key.display` is the written name.
-/

namespace LineEditor

/-- What is pressed, apart from modifiers. -/
inductive KeyCode
  | char (c : Char)
  | enter
  | escape
  | backspace
  | tab
  | up
  | down
  | left
  | right
  | home
  | endKey
  | delete
  deriving DecidableEq, Repr

/-- The modifiers held down. -/
structure Modifiers where
  ctrl : Bool := false
  alt : Bool := false
  shift : Bool := false
  deriving DecidableEq, Repr

namespace Modifiers

/-- The modifiers of both. -/
def union (a b : Modifiers) : Modifiers :=
  ⟨a.ctrl || b.ctrl, a.alt || b.alt, a.shift || b.shift⟩

end Modifiers

/-- A key press. -/
structure Key where
  code : KeyCode
  mods : Modifiers
  deriving DecidableEq, Repr

namespace Key

/-- A key without modifiers. -/
def plain (code : KeyCode) : Key := ⟨code, {}⟩

/-- A character without modifiers. -/
def char (c : Char) : Key := plain (.char c)

def ctrl (c : Char) : Key := ⟨.char c, ⟨true, false, false⟩⟩

def alt (c : Char) : Key := ⟨.char c, ⟨false, true, false⟩⟩

/-- The character that the key types when it is bound to nothing: a control character or a
character with Ctrl or Alt types none. -/
def printable? (k : Key) : Option Char :=
  match k.code with
  | .char c => if Unicode.isControl c || k.mods.ctrl || k.mods.alt then none else some c
  | _ => none

/-- The control code of a character with Ctrl, for the characters that have one. -/
def controlCode (c : Char) : Char :=
  if c = ' ' then '\x00'
  else if '@' ≤ c.toUpper ∧ c.toUpper ≤ '_' then Char.ofNat (c.toUpper.toNat % 32)
  else c

/-- What a terminal sends for a key code, Ctrl being held down or not. -/
def codeSpelling (ctrl : Bool) : KeyCode → Text
  | .char c => if ctrl then [controlCode c] else [c]
  | .enter => ['\r']
  | .escape => ['\x1b']
  | .backspace => ['\x7f']
  | .tab => ['\t']
  | .up => ['\x1b', '[', 'A']
  | .down => ['\x1b', '[', 'B']
  | .right => ['\x1b', '[', 'C']
  | .left => ['\x1b', '[', 'D']
  | .home => ['\x1b', '[', 'H']
  | .endKey => ['\x1b', '[', 'F']
  | .delete => ['\x1b', '[', '3', '~']

/-- The code points a terminal sends for the key. Alt puts an escape in front. -/
def codePoints (k : Key) : Text :=
  (if k.mods.alt then ['\x1b'] else []) ++ codeSpelling k.mods.ctrl k.code

/-- The name of a key code. -/
def codeName : KeyCode → Text
  | .char c => if c = ' ' then "space".toList else [c]
  | .enter => "enter".toList
  | .escape => "esc".toList
  | .backspace => "backspace".toList
  | .tab => "tab".toList
  | .up => "up".toList
  | .down => "down".toList
  | .left => "left".toList
  | .right => "right".toList
  | .home => "home".toList
  | .endKey => "end".toList
  | .delete => "delete".toList

/-- The written name: the modifiers, each with a dash, and the name of the code. -/
def display (k : Key) : Text :=
  (if k.mods.ctrl then "ctrl-".toList else []) ++ (if k.mods.alt then "alt-".toList else []) ++
    (if k.mods.shift then "shift-".toList else []) ++ codeName k.code

@[simp]
theorem printable?_plain_eq_none {code : KeyCode} (h : ∀ c, code ≠ .char c) :
    (plain code).printable? = none := by
  cases code <;> simp_all [printable?, plain]

@[simp]
theorem printable?_char (c : Char) :
    (char c).printable? = if Unicode.isControl c then none else some c := by
  simp [printable?, char, plain]

end Key

end LineEditor
