import LineEditor.Action.Basic
import LineEditor.Key.Spec

/-!
# Keymaps

A keymap binds keys to names of actions, in two layers. Emacs mode uses the insert layer only; vi
mode has a command layer as well, where keys are commands and do not type text.

## Main definitions

* `EditMode`, `Layer`, `Keymap`.
* `Keymap.lookup`, `Keymap.bind`, `Keymap.unbind` and `Keymap.bindSpec`.
* `Keymap.ofMode` holds the bindings a mode starts with.
-/

namespace LineEditor

/-- The families of bindings. -/
inductive EditMode
  | emacs
  | vi
  deriving DecidableEq, Repr

/-- The names of the modes. -/
def EditMode.names : List (String × EditMode) :=
  [("emacs", .emacs), ("vi", .vi), ("vim", .vi)]

/-- Reads the name of a mode, in any case. -/
def EditMode.ofText (t : Text) : Except KeySpecError EditMode :=
  match Text.named? names t with
  | some mode => .ok mode
  | none => .error (.unknownMode t)

/-- The tables of a keymap. Keys that are bound to nothing type text in the insert layer. -/
inductive Layer
  | insert
  | command
  deriving DecidableEq, Repr

/-- Bindings of keys to action names. Each pair of layer and key is bound at most once by the
operations below. -/
structure Keymap where
  mode : EditMode
  entries : List ((Layer × Key) × String)
  deriving DecidableEq, Repr

/-- Leaving out the entries of one key of a table does not change what the others are looked up
as. -/
theorem lookup_filter_ne {κ ν : Type} [BEq κ] [LawfulBEq κ] [DecidableEq κ]
    (entries : List (κ × ν)) (k k' : κ) (h : k' ≠ k) :
    (entries.filter (·.1 ≠ k)).lookup k' = entries.lookup k' := by
  induction entries with
  | nil => rfl
  | cons e rest ih =>
    obtain ⟨a, v⟩ := e
    by_cases ha : a = k
    · subst ha
      have hb : (k' == a) = false := by simpa using h
      simpa [List.lookup_cons, hb] using ih
    · by_cases hk : k' = a
      · subst hk
        simp [ha]
      · have hb : (k' == a) = false := by simpa using hk
        simpa [ha, List.lookup_cons, hb] using ih

namespace Keymap

/-- The name that a key is bound to in a layer. -/
def lookup (m : Keymap) (layer : Layer) (key : Key) : Option String :=
  m.entries.lookup (layer, key)

/-- Removes the binding of a key. -/
def unbind (m : Keymap) (layer : Layer) (key : Key) : Keymap :=
  { m with entries := m.entries.filter (·.1 ≠ (layer, key)) }

/-- Binds a key, in place of what it was bound to. -/
def bind (m : Keymap) (layer : Layer) (key : Key) (action : String) : Keymap :=
  { m with entries := ((layer, key), action) :: (m.unbind layer key).entries }

/-- The names of all bindings, one for each key. -/
def actionNames (m : Keymap) : List String :=
  m.entries.map (·.2)

@[simp]
theorem lookup_bind_self (m : Keymap) (layer : Layer) (key : Key) (action : String) :
    (m.bind layer key action).lookup layer key = some action := by
  simp [lookup, bind]

theorem lookup_bind_of_ne (m : Keymap) {layer layer' : Layer} {key key' : Key} (action : String)
    (h : (layer', key') ≠ (layer, key)) :
    (m.bind layer key action).lookup layer' key' = m.lookup layer' key' := by
  have hb : ((layer', key') == (layer, key)) = false := by simpa using h
  rw [lookup, bind, List.lookup_cons, hb]
  exact lookup_filter_ne _ _ _ h

/-- The layer and the written key of a written binding. A layer may stand in front of a colon;
without one, or when the colon is at either end, the whole text is a key of the insert layer. -/
def splitLayer (spec : Text) : Except KeySpecError (Layer × Text) :=
  let layer := spec.takeWhile (· ≠ ':')
  let key := (spec.dropWhile (· ≠ ':')).drop 1
  if key = [] ∨ layer = [] then .ok (.insert, spec)
  else if layer = "insert".toList then .ok (.insert, key)
  else if layer = "command".toList then .ok (.command, key)
  else .error (.unknownLayer layer)

/-- The layer and the key of a written binding. -/
def readSpec (spec : Text) : Except KeySpecError (Layer × Key) := do
  let (layer, keySpec) ← splitLayer spec
  let key ← Key.ofSpec keySpec
  return (layer, key)

/-- Binds a written key, and gives the name it was bound to before. -/
def bindSpec (m : Keymap) (spec : Text) (action : String) :
    Except KeySpecError (Keymap × Option String) := do
  let (layer, key) ← readSpec spec
  return (m.bind layer key action, m.lookup layer key)

/-- A key with Alt and no character. -/
def altKey (code : KeyCode) : Key := ⟨code, ⟨false, true, false⟩⟩

/-- The bindings of emacs mode. -/
def emacsBindings : List (Key × Action) :=
  [(.plain .enter, .acceptLine), (.ctrl 'j', .acceptLine), (.plain .tab, .complete),
    (.plain .backspace, .backwardDeleteChar), (.ctrl 'h', .backwardDeleteChar),
    (.plain .delete, .deleteChar), (.ctrl 'd', .deleteChar),
    (.plain .left, .backwardChar), (.ctrl 'b', .backwardChar),
    (.plain .right, .forwardChar), (.ctrl 'f', .forwardChar),
    (.alt 'b', .backwardWord), (.alt 'f', .forwardWord),
    (.plain .home, .beginningOfLine), (.ctrl 'a', .beginningOfLine),
    (.plain .endKey, .endOfLine), (.ctrl 'e', .endOfLine),
    (.plain .up, .previousHistory), (.ctrl 'p', .previousHistory),
    (.plain .down, .nextHistory), (.ctrl 'n', .nextHistory),
    (.ctrl 'k', .killLine), (.ctrl 'u', .unixLineDiscard),
    (.ctrl 'w', .backwardKillWord), (altKey .backspace, .backwardKillWord),
    (.ctrl 'y', .yank), (.ctrl '_', .undo),
    (.ctrl 'r', .reverseSearchHistory), (.ctrl 's', .forwardSearchHistory)]

/-- The bindings of the insert layer in vi mode. -/
def viInsertBindings : List (Key × Action) :=
  [(.plain .enter, .acceptLine), (.ctrl 'j', .acceptLine), (.plain .tab, .complete),
    (.plain .backspace, .backwardDeleteChar), (.ctrl 'h', .backwardDeleteChar),
    (.plain .delete, .deleteChar), (.plain .left, .backwardChar),
    (.plain .right, .forwardChar), (.plain .home, .beginningOfLine),
    (.plain .endKey, .endOfLine), (.plain .up, .previousHistory),
    (.plain .down, .nextHistory), (.ctrl 'u', .unixLineDiscard),
    (.ctrl 'w', .backwardKillWord), (.plain .escape, .viMovementMode)]

/-- The bindings of the command layer in vi mode. -/
def viCommandBindings : List (Key × Action) :=
  [(.plain .enter, .acceptLine), (.char 'h', .backwardChar), (.plain .left, .backwardChar),
    (.plain .backspace, .backwardChar), (.char 'l', .forwardChar),
    (.plain .right, .forwardChar), (.char ' ', .forwardChar),
    (.char 'w', .forwardWord), (.char 'b', .backwardWord),
    (.char '0', .beginningOfLine), (.plain .home, .beginningOfLine),
    (.char '$', .endOfLine), (.plain .endKey, .endOfLine),
    (.char 'k', .previousHistory), (.plain .up, .previousHistory),
    (.char 'j', .nextHistory), (.plain .down, .nextHistory),
    (.char 'x', .deleteChar), (.plain .delete, .deleteChar),
    (.char 'X', .backwardDeleteChar), (.char '~', .changeCaseChar),
    (.char 'D', .killLine), (.char 'p', .yank), (.char 'u', .undo),
    (.char 'i', .viInsertMode), (.char 'a', .viAppendMode),
    (.char 'I', .viInsertBeginningOfLine), (.char 'A', .viAppendEndOfLine)]

/-- The entries of one layer. -/
def layerEntries (layer : Layer) (bindings : List (Key × Action)) :
    List ((Layer × Key) × String) :=
  bindings.map fun b => ((layer, b.1), b.2.name)

/-- The keymap that a mode starts with. -/
def ofMode : EditMode → Keymap
  | .emacs => ⟨.emacs, layerEntries .insert emacsBindings⟩
  | .vi => ⟨.vi, layerEntries .insert viInsertBindings ++ layerEntries .command viCommandBindings⟩

end Keymap

end LineEditor
