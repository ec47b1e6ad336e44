import LineEditor.Key.Basic

/-!
# Written keys

Users write keys as modifiers and a key joined by dashes: `ctrl-a`, `alt-backspace`, `up`, `x`.
Names of modifiers and keys may be written in any case, while a single character keeps its case
unless Ctrl is held down.

## Main definitions

* `KeySpecError` and `KeySpecError.message`.
* `Key.ofSpec` reads a written key.
-/

namespace LineEditor

/-- Why a written key, layer or mode is refused. -/
inductive KeySpecError
  | empty
  | unknownModifier (name : Text)
  | unknownKey (name : Text)
  | unknownMode (name : Text)
  | unknownLayer (name : Text)
  deriving DecidableEq, Repr

/-- The report of an error. -/
def KeySpecError.message : KeySpecError → Text
  | .empty => "empty key spec".toList
  | .unknownModifier name => "unknown modifier `".toList ++ name ++ "` in key spec".toList
  | .unknownKey name => "unknown key `".toList ++ name ++ "` in key spec".toList
  | .unknownMode name => "unknown edit mode `".toList ++ name ++ "`".toList
  | .unknownLayer name => "unknown layer `".toList ++ name ++ "`".toList

namespace Key

/-- The parts of a written key. A dash at the end is the key itself when a dash or nothing is
before it. -/
def specParts (spec : Text) : List Text :=
  if "--".toList.isSuffixOf spec then
    Text.splitOn '-' (spec.take (spec.length - 2)) ++ [['-']]
  else if spec = ['-'] then [['-']]
  else Text.splitOn '-' spec

/-- The names of modifiers, each with a press of it. -/
def modifierNames : List (String × Modifiers) :=
  [("ctrl", ⟨true, false, false⟩), ("c", ⟨true, false, false⟩), ("control", ⟨true, false, false⟩),
    ("alt", ⟨false, true, false⟩), ("meta", ⟨false, true, false⟩), ("m", ⟨false, true, false⟩),
    ("shift", ⟨false, false, true⟩), ("s", ⟨false, false, true⟩)]

/-- The names of key codes. -/
def codeNames : List (String × KeyCode) :=
  [("enter", .enter), ("return", .enter), ("ret", .enter), ("esc", .escape), ("escape", .escape),
    ("backspace", .backspace), ("bs", .backspace), ("tab", .tab), ("up", .up), ("down", .down),
    ("left", .left), ("right", .right), ("home", .home), ("end", .endKey), ("delete", .delete),
    ("del", .delete), ("space", .char ' ')]

/-- Holds down the modifier with the given name as well. -/
def addModifier (mods : Modifiers) (name : Text) : Except KeySpecError Modifiers :=
  match Text.named? modifierNames name with
  | some more => .ok (mods.union more)
  | none => .error (.unknownModifier name)

/-- The key code that the last part of a written key stands for. -/
def codeOfPart (ctrl : Bool) : Text → Except KeySpecError KeyCode
  | [c] => .ok (.char (if ctrl then c.toLower else c))
  | name =>
    match Text.named? codeNames name with
    | some code => .ok code
    | none => .error (.unknownKey name)

/-- Reads a written key. The modifiers are looked at first, from left to right. -/
def ofSpec (spec : Text) : Except KeySpecError Key :=
  if spec = [] then .error .empty
  else do
    let parts := specParts spec
    let mods ← parts.dropLast.foldlM addModifier {}
    let code ← codeOfPart mods.ctrl (parts.getLastD [])
    return ⟨code, mods⟩

end Key

end LineEditor
