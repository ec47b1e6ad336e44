import LineEditor.FileSystem

/-!
# History

The lines that were accepted, up to a capacity, with two places in them that move on their own.

* The fetch position is where stepping to older and newer entries stands. It is one past the
  newest entry unless stepping is going on.
* The search gap lies between entries. A search backwards looks at the entries before the gap and
  leaves the gap in front of the hit, a search forwards looks at those behind it and leaves the
  gap behind the hit; a search that finds nothing up to the end goes on from the other one.

## Main definitions

* `History`, `History.create`, `History.push`.
* `History.previous` and `History.next` step, `History.search` searches.
-/

namespace LineEditor

/-- Where a search goes next: to older or to newer entries. -/
inductive SearchDirection
  | reverse
  | forward
  deriving DecidableEq, Repr

/-- What may be done with the history file, and whether only by its owner or by everybody. -/
structure FilePermission where
  readable : Bool := true
  readableOwnerOnly : Bool := true
  writable : Bool := true
  writableOwnerOnly : Bool := true
  executable : Bool := false
  executableOwnerOnly : Bool := true
  deriving DecidableEq, Repr

namespace FilePermission

/-- The bits that one kind of permission sets, `bit` being its bit for everybody else. -/
def bits (granted ownerOnly : Bool) (bit : Nat) : Nat :=
  if granted then (if ownerOnly then bit * 0o100 else bit * 0o111) else 0

/-- The mode of a file. -/
def mode (p : FilePermission) : Nat :=
  bits p.readable p.readableOwnerOnly 4 + bits p.writable p.writableOwnerOnly 2 +
    bits p.executable p.executableOwnerOnly 1

end FilePermission

/-- The file that a history is kept in. -/
structure HistoryFile where
  path : FilePath
  permission : FilePermission
  deriving DecidableEq, Repr

/-- What was being done with the history file when it failed. -/
inductive HistoryFileTask
  | reading
  | creatingDirectory
  | creating
  deriving DecidableEq, Repr

/-- The name of a task in reports. -/
def HistoryFileTask.name : HistoryFileTask → String
  | .reading => "reading"
  | .creatingDirectory => "creating directory for"
  | .creating => "creating"

/-- Why a history cannot be made or kept. -/
inductive HistoryError
  | invalidCapacity (capacity : Nat)
  | file (task : HistoryFileTask)
  deriving DecidableEq, Repr

/-- The report of an error. -/
def HistoryError.message : HistoryError → Text
  | .invalidCapacity n =>
    "history capacity must be at least 1 (got ".toList ++ Text.ofNat n ++ [')']
  | .file task => "I/O error while ".toList ++ task.name.toList ++ " history file".toList

/-- The entries with the oldest first, the two positions, the line that was being edited when
stepping began, and the file the entries are kept in, if any. -/
structure History where
  entries : List Text := []
  capacity : Nat
  fetch : Nat := 0
  gap : Nat := 0
  direction : SearchDirection := .reverse
  draft : Text := []
  enabled : Bool := true
  file : Option HistoryFile := none
  deriving DecidableEq, Repr

namespace History

/-- A history without entries. It needs room for at least one. -/
def create (capacity : Nat) : Except HistoryError History :=
  if capacity = 0 then .error (.invalidCapacity capacity) else .ok { capacity }

/-- The number of entries. -/
def size (h : History) : Nat := h.entries.length

/-- The entry at an index, the oldest one at 0. -/
def get? (h : History) (index : Nat) : Option Text := h.entries[index]?

/-- Puts both positions behind the newest entry. -/
def resetPositions (h : History) : History :=
  { h with fetch := h.entries.length, gap := h.entries.length }

/-- The last `capacity` entries. -/
def keepNewest (capacity : Nat) (entries : List Text) : List Text :=
  entries.drop (entries.length - capacity)

/-- Adds an entry unless it equals the newest one. The draft is forgotten and both positions go
behind the newest entry in either case. -/
def push (h : History) (entry : Text) : History :=
  let entries :=
    if h.entries.getLast? = some entry then h.entries
    else keepNewest h.capacity (h.entries ++ [entry])
  resetPositions { h with entries, draft := [] }

/-- Stepping is going on: the fetch position is at an entry. -/
def isNavigating (h : History) : Bool :=
  h.fetch < h.entries.length

/-- Keeps the line being edited, so that stepping may come back to it. -/
def setDraft (h : History) (line : Text) : History :=
  { h with draft := line }

/-- Steps to the next older entry, and stays at the oldest one. -/
def previous (h : History) : History × Option Text :=
  if h.entries.isEmpty then (h, none)
  else
    -- at the oldest entry there is no step left, and it is given again
    let fetch := h.fetch - 1
    ({ h with fetch }, h.entries[fetch]?)

/-- Steps to the next newer entry. Behind the newest one is the draft. -/
def next (h : History) : History × Option Text :=
  if h.entries.isEmpty then (h, none)
  else if h.fetch + 1 < h.entries.length then
    ({ h with fetch := h.fetch + 1 }, h.entries[h.fetch + 1]?)
  else ({ h with fetch := h.entries.length }, some h.draft)

/-- The indexes that a search looks at, in order, with the gap in front of index `gap`. -/
def scanOrder (direction : SearchDirection) (gap size : Nat) : List Nat :=
  let below := List.range gap
  let above := (List.range size).drop gap
  match direction with
  | .reverse => below.reverse ++ above.reverse
  | .forward => above ++ below

/-- The nearest entry from the gap on that `term` occurs in. -/
def search (h : History) (term : Text) : History × Option Text :=
  let order := scanOrder h.direction (min h.gap h.entries.length) h.entries.length
  match order.find? fun i => (h.entries[i]?).any (Text.occursIn term) with
  | none => (h, none)
  | some hit =>
    -- the gap moves past the hit, so that the same search does not find it again at once
    let gap := match h.direction with | .reverse => hit | .forward => hit + 1
    ({ h with gap }, h.entries[hit]?)

/-- Forgets all entries and the draft. -/
def clear (h : History) : History :=
  resetPositions { h with entries := [], draft := [] }

@[simp]
theorem entries_resetPositions (h : History) : h.resetPositions.entries = h.entries := rfl

@[simp]
theorem entries_setDraft (h : History) (line : Text) : (h.setDraft line).entries = h.entries := rfl

@[simp]
theorem entries_clear (h : History) : h.clear.entries = [] := rfl

@[simp]
theorem entries_previous (h : History) : h.previous.1.entries = h.entries := by
  simp only [previous]; split <;> rfl

@[simp]
theorem entries_next (h : History) : h.next.1.entries = h.entries := by
  simp only [next]; split
  · rfl
  · split <;> rfl

@[simp]
theorem entries_search (h : History) (term : Text) :
    (h.search term).1.entries = h.entries := by
  simp only [search]; split <;> rfl

end History

end LineEditor
