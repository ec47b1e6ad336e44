import LineEditor.Settings.Basic
import LineEditor.Toml.Reading

/-!
# Settings in TOML documents

The settings are read from a document with one table for each group. Keys that mean nothing are
passed over, but a value that a setting cannot take makes the whole document useless, and so does
an invalid number behind a key that means nothing. A group may
also be an array, which gives the settings in their usual order.

## Main definitions

* `Settings.ofTable?`, `Settings.ofText?`.
-/

namespace LineEditor

namespace Toml

/-- The key of the one field that a moment has when a table is wanted. -/
def momentKey : Text := "$__toml_private_datetime".toList

namespace Value

def boolean? : Value → Option Bool
  | .boolean b => some b
  | _ => none

def text? : Value → Option Text
  | .text t => some t
  | _ => none

/-- A count of at most 64 bits. -/
def count? : Value → Option Nat
  | .integer n => if 0 ≤ n ∧ n < UInt64.size then some n.toNat else none
  | _ => none

/-- The fields of a table. -/
def fields? : Value → Option (List (Text × Value))
  | .table _ fields => some fields
  | .moment t => some [(momentKey, .text t)]
  | _ => none

/-- One of several names. It may also be the only key of a table, with nothing behind it. -/
def choice? {α : Type} (names : List (String × α)) : Value → Option α
  | .text t => names.lookup (String.ofList t)
  | .table _ [(t, .table _ [])] => names.lookup (String.ofList t)
  | .table _ [(t, .array _ [])] => names.lookup (String.ofList t)
  | _ => none

/-- The settings of a group by their names. In an array they have the order of `names`, and what
follows them is not looked at. In a table the other fields must be sound. -/
def group? (names : List String) : Value → Option (String → Option Value)
  | .array _ items => some fun name => items[names.idxOf name]?
  | v => do
    let fields ← v.fields?
    if fields.all fun (key, v) => String.ofList key ∈ names || v.isSound then
      return fun name => fields.lookup name.toList
    else none

end Value

/-- Reads a setting, or takes its default when it is missing. -/
def orDefault {α : Type} (default : α) (read : Value → Option α) : Option Value → Option α
  | none => some default
  | some v => read v

end Toml

open Toml

/-- Reads permissions. -/
def FilePermission.ofValue? (v : Value) : Option FilePermission := do
  let setting ← v.group? ["readable", "readable_owner_only", "writable", "writable_owner_only",
    "executable", "executable_owner_only"]
  let flag (default : Bool) (name : String) : Option Bool :=
    orDefault default Value.boolean? (setting name)
  let default : FilePermission := {}
  return {
    readable := ← flag default.readable "readable"
    readableOwnerOnly := ← flag default.readableOwnerOnly "readable_owner_only"
    writable := ← flag default.writable "writable"
    writableOwnerOnly := ← flag default.writableOwnerOnly "writable_owner_only"
    executable := ← flag default.executable "executable"
    executableOwnerOnly := ← flag default.executableOwnerOnly "executable_owner_only" }

/-- Reads the settings of the history. -/
def HistorySettings.ofValue? (v : Value) : Option HistorySettings := do
  let setting ← v.group? ["enabled", "size", "file", "permission"]
  let default : HistorySettings := {}
  return {
    enabled := ← orDefault default.enabled Value.boolean? (setting "enabled")
    size := ← orDefault default.size Value.count? (setting "size")
    file := ← orDefault default.file (·.text?.map some) (setting "file")
    permission := ← orDefault default.permission FilePermission.ofValue? (setting "permission") }

/-- The modes that settings may name. -/
def EditingSettings.modes : List (String × EditMode) :=
  [("emacs", .emacs), ("vi", .vi)]

/-- Reads the settings of editing. -/
def EditingSettings.ofValue? (v : Value) : Option EditingSettings := do
  let setting ← v.group? ["mode", "quote_continuation", "prompt"]
  let default : EditingSettings := {}
  return {
    mode := ← orDefault default.mode (Value.choice? modes) (setting "mode")
    continuation := ← orDefault default.continuation (Value.choice? QuoteContinuation.names)
      (setting "quote_continuation")
    prompt := ← orDefault default.prompt Value.text? (setting "prompt") }

namespace Settings

/-- The charsets that settings may name. -/
def charsets : List (String × Charset) :=
  [("utf-8", .utf8), ("utf8", .utf8), ("iso-8859-1", .latin1), ("latin1", .latin1)]

/-- Reads the charset from the settings of the terminal. -/
def charsetOfValue? (v : Value) : Option Charset := do
  let setting ← v.group? ["charset"]
  orDefault .utf8 (Value.choice? charsets) (setting "charset")

/-- Reads bindings. -/
def bindingsOfValue? (v : Value) : Option Bindings := do
  let entries ← (← v.fields?).mapM fun (key, action) => action.text?.map (key, ·)
  return .ofList entries

/-- Reads all settings. -/
def ofTable? (t : Table) : Option Settings := do
  let setting ← t.toValue.group? ["history", "editing", "terminal", "bindings"]
  return {
    history := ← orDefault {} HistorySettings.ofValue? (setting "history")
    editing := ← orDefault {} EditingSettings.ofValue? (setting "editing")
    charset := ← orDefault .utf8 charsetOfValue? (setting "terminal")
    bindings := ← orDefault .empty bindingsOfValue? (setting "bindings") }

/-- Reads settings from the text of a document. -/
def ofText? (t : Text) : Option Settings :=
  (Table.ofText? t).bind ofTable?

end Settings

end LineEditor
