import LineEditor.Text.Basic

/-!
# Tables of a TOML document

A document is a table, and its statements put fields into it or into tables below it. What may be
added to a table depends on how the table came about: each table is defined in one place only,
and one that was written in braces is finished.

## Main definitions

* `Value`, `Origin`, `Table`.
* `Value.isSound` says that every number in a value has a value of its own.
* `Table.assign` is a statement `path.key = value`.
* `Table.openTable` and `Table.openElement` are the headers `[path.key]` and `[[path.key]]`.
-/

namespace LineEditor.Toml

/-- How a table came about. -/
inductive Origin
  /-- It has a header, or is the document itself. -/
  | header
  /-- It lies on the way to a table with a header. -/
  | implied
  /-- It lies on the way to the last key of a statement. -/
  | dotted
  /-- It was written in braces. -/
  | braces
  deriving DecidableEq, Repr

/-- A value of a document. A float is kept as it is written and a moment in its usual spelling; an
array is open when its elements have headers of their own. -/
inductive Value
  | text (t : Text)
  | integer (n : Int)
  | float (lexeme : Text)
  /-- A number that has the form of one, but is too large to be kept or lacks proper digits. It
  does no harm to a document unless somebody wants to know its value. -/
  | invalidNumber
  | boolean (b : Bool)
  /-- A date, a time of day, or both. -/
  | moment (spelling : Text)
  | array (isOpen : Bool) (items : List Value)
  | table (origin : Origin) (fields : List (Text × Value))
  deriving Repr

mutual

/-- There is no invalid number in a value. -/
def Value.isSound : Value → Bool
  | .invalidNumber => false
  | .array _ items => areSoundItems items
  | .table _ fields => areSoundFields fields
  | _ => true

/-- There is no invalid number in any item. -/
def areSoundItems : List Value → Bool
  | [] => true
  | v :: rest => v.isSound && areSoundItems rest

/-- There is no invalid number in any field. -/
def areSoundFields : List (Text × Value) → Bool
  | [] => true
  | (_, v) :: rest => v.isSound && areSoundFields rest

end

/-- A table: how it came about, and its fields in the order in which they were added. -/
structure Table where
  origin : Origin
  fields : List (Text × Value) := []
  deriving Repr

namespace Table

/-- The table as a value. -/
def toValue (t : Table) : Value := .table t.origin t.fields

/-- The field with a key. -/
def get? (t : Table) (key : Text) : Option Value :=
  t.fields.lookup key

/-- Puts a value in place of the field with the key, or behind all fields when there is none. -/
def set (t : Table) (key : Text) (v : Value) : Table :=
  if t.fields.any (·.1 = key) then
    { t with fields := t.fields.map fun f => if f.1 = key then (key, v) else f }
  else
    { t with fields := t.fields ++ [(key, v)] }

/-- The origin of a table that has to be made on the way to another one. -/
def pathOrigin (isStatement : Bool) : Origin :=
  if isStatement then .dotted else .implied

/-- Whether a path may go through a table. A statement may not reach into a table that has a
header, and nothing reaches into braces. -/
def isPassable (isStatement : Bool) : Origin → Bool
  | .header => !isStatement
  | .implied | .dotted => true
  | .braces => false

/-- Applies a change to the table at the end of a path. Tables that are missing on the way are
made, and a path leads into the last element of an open array. -/
def edit (isStatement : Bool) (f : Table → Option Table) : List Text → Table → Option Table
  | [], t => f t
  | key :: path, t =>
    match t.get? key with
    | none => (edit isStatement f path ⟨pathOrigin isStatement, []⟩).map (t.set key ·.toValue)
    | some (.table origin fields) =>
      if isPassable isStatement origin then
        (edit isStatement f path ⟨origin, fields⟩).map (t.set key ·.toValue)
      else none
    | some (.array true items) =>
      -- the header of an element opens what follows it, so the last element is meant
      match items.getLast? with
      | some (.table origin fields) =>
        (edit isStatement f path ⟨origin, fields⟩).map fun last =>
          t.set key (.array true (items.dropLast ++ [last.toValue]))
      | _ => none
    | some _ => none

/-- Adds a field whose key must be new. -/
def add (t : Table) (key : Text) (v : Value) : Option Table :=
  if (t.get? key).isSome then none else some (t.set key v)

/-- The statement `path.key = v`. With a path, the table at its end must have come about by such
statements too. -/
def assign (t : Table) (path : List Text) (key : Text) (v : Value) : Option Table :=
  t.edit true (fun t => if path = [] ∨ t.origin = .dotted then t.add key v else none) path

/-- The header `[path.key]`. The table must be new, or have been met on the way to others only. -/
def openTable (t : Table) (path : List Text) (key : Text) : Option Table :=
  t.edit false (fun t =>
    match t.get? key with
    | none => some (t.set key (.table .header []))
    | some (.table .implied fields) => some (t.set key (.table .header fields))
    | some _ => none) path

/-- The header `[[path.key]]`, which adds an element to an open array. -/
def openElement (t : Table) (path : List Text) (key : Text) : Option Table :=
  t.edit false (fun t =>
    match t.get? key with
    | none => some (t.set key (.array true [.table .header []]))
    | some (.array true items) => some (t.set key (.array true (items ++ [.table .header []])))
    | some _ => none) path

end Table

/-- A document that is being read: its table, and the path of the last header. -/
structure Document where
  root : Table := ⟨.header, []⟩
  current : List Text := []
  deriving Repr

namespace Document

/-- A statement below the last header. -/
def assign (d : Document) (path : List Text) (key : Text) (v : Value) : Option Document :=
  (d.root.edit false (·.assign path key v) d.current).map ({ d with root := · })

/-- A header `[path.key]`. -/
def openTable (d : Document) (path : List Text) (key : Text) : Option Document :=
  (d.root.openTable path key).map ({ root := ·, current := path ++ [key] })

/-- A header `[[path.key]]`. -/
def openElement (d : Document) (path : List Text) (key : Text) : Option Document :=
  (d.root.openElement path key).map ({ root := ·, current := path ++ [key] })

end Document

end LineEditor.Toml
