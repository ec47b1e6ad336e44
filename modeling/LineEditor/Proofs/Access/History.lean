import LineEditor.Proofs.Access.Basic
import LineEditor.Proofs.Recall
import LineEditor.Proofs.Retention

/-!
# The history with checked accesses

A search looks at the entries by index, and stepping counts down. The indexes that a search goes
through are those of the entries, whatever the position that it starts at; and both positions of a
history stay between the start and one place behind the newest entry, whatever is done with it.

## Main definitions

* `History.InPlace` — both positions lie in the history, or directly behind it.
* `History.previous?`, `History.search?` are the steps of a history with checked accesses, and
  `History.perform?` carries out any operation with them.

## Main results

* `History.InPlace.run` — the positions stay in place.
* `History.previous?_eq`, `History.search?_eq` and `History.perform?_eq`.
-/

namespace LineEditor.History

open Access

/-- Both positions lie in the history or directly behind its newest entry. -/
structure InPlace (h : History) : Prop where
  fetch : h.fetch ≤ h.size
  gap : h.gap ≤ h.size

/-- The position of the next older entry. At the oldest entry there is no step left. -/
def olderFetch? (fetch : Nat) : Option Nat :=
  if 0 < fetch then minus? fetch 1 else pure fetch

/-- Steps to the next older entry. -/
def previous? (h : History) : Option (History × Option Text) :=
  if h.entries.isEmpty then pure (h, none)
  else do
    let fetch ← olderFetch? h.fetch
    pure ({ h with fetch }, h.entries[fetch]?)

/-- The first index of some, in order, whose entry a text occurs in. -/
def firstHit? (entries : List Text) (term : Text) : List Nat → Option (Option Nat)
  | [] => pure none
  | index :: rest => do
    let entry ← entries[index]?
    if Text.occursIn term entry then pure (some index) else firstHit? entries term rest

/-- The nearest entry from the gap on that `term` occurs in. -/
def search? (h : History) (term : Text) : Option (History × Option Text) := do
  let hit ← firstHit? h.entries term
    (scanOrder h.direction (min h.gap h.entries.length) h.entries.length)
  match hit with
  | none => pure (h, none)
  | some hit =>
    let gap := match h.direction with | .reverse => hit | .forward => hit + 1
    pure ({ h with gap }, h.entries[hit]?)

/-- Carries out an operation. The others make no access that could be out of range. -/
def perform? (h : History) : HistoryOp → Option (History × Option Text)
  | .previous => h.previous?
  | .search term => h.search? term
  | op => pure (h.perform op)

variable {h : History}

theorem previous?_eq (h : History) : h.previous? = some h.previous := by
  have holder : olderFetch? h.fetch = some (h.fetch - 1) := by
    rw [olderFetch?]
    split
    · next hpos => exact minus?_eq hpos
    · next hzero =>
      have hfetch : h.fetch = 0 := Nat.eq_zero_of_not_pos hzero
      rw [hfetch]
      rfl
  rw [previous?, previous, holder]
  split
  · rfl
  · rfl

/-- A search goes through indexes of entries only. -/
theorem lt_of_mem_scanOrder {direction : SearchDirection} {gap size index : Nat}
    (hgap : gap ≤ size) (h : index ∈ scanOrder direction gap size) : index < size := by
  have hbelow : index ∈ List.range gap → index < size := fun hmem =>
    Nat.lt_of_lt_of_le (List.mem_range.mp hmem) hgap
  have habove : index ∈ (List.range size).drop gap → index < size := fun hmem =>
    List.mem_range.mp (List.mem_of_mem_drop hmem)
  cases direction with
  | reverse =>
    rcases List.mem_append.mp h with hmem | hmem
    · exact hbelow (List.mem_reverse.mp hmem)
    · exact habove (List.mem_reverse.mp hmem)
  | forward =>
    rcases List.mem_append.mp h with hmem | hmem
    · exact habove hmem
    · exact hbelow hmem

theorem firstHit?_eq {entries : List Text} {order : List Nat} (term : Text)
    (h : ∀ index ∈ order, index < entries.length) :
    firstHit? entries term order =
      some (order.find? fun i => (entries[i]?).any (Text.occursIn term)) := by
  induction order with
  | nil => rfl
  | cons index order ih =>
    have hindex := List.getElem?_eq_getElem (h index List.mem_cons_self)
    have hrest := ih fun i hi => h i (List.mem_cons_of_mem index hi)
    rw [firstHit?, hindex, List.find?_cons, hindex, hrest]
    show (if Text.occursIn term _ then _ else _) = _
    rw [Option.any_some]
    cases Text.occursIn term _ with
    | true => rfl
    | false => rfl

theorem search?_eq (h : History) (term : Text) : h.search? term = some (h.search term) := by
  have hrange : ∀ index ∈ scanOrder h.direction (min h.gap h.entries.length) h.entries.length,
      index < h.entries.length := fun index hindex =>
    lt_of_mem_scanOrder (Nat.min_le_right _ _) hindex
  rw [search?, firstHit?_eq term hrange, search]
  dsimp only
  cases List.find? _ (scanOrder h.direction _ _) with
  | none => rfl
  | some hit => rfl

theorem perform?_eq (h : History) (op : HistoryOp) : h.perform? op = some (h.perform op) := by
  cases op with
  | previous => exact previous?_eq h
  | search term => exact search?_eq h term
  | push | get | next | setDraft | setDirection | setEnabled | clear => rfl

/-! ### The positions -/

theorem inPlace_resetPositions (h : History) : h.resetPositions.InPlace :=
  ⟨Nat.le_refl _, Nat.le_refl _⟩

theorem InPlace.previous (hplace : h.InPlace) : h.previous.1.InPlace := by
  rw [History.previous]
  split
  · exact hplace
  · exact ⟨Nat.le_trans (Nat.sub_le _ _) hplace.fetch, hplace.gap⟩

theorem InPlace.next (hplace : h.InPlace) : h.next.1.InPlace := by
  rw [History.next]
  split
  · exact hplace
  · split
    · next holder => exact ⟨Nat.le_of_lt holder, hplace.gap⟩
    · exact ⟨Nat.le_refl _, hplace.gap⟩

/-- The gap moves to one side of a hit, which is an entry. -/
theorem InPlace.search (hplace : h.InPlace) (term : Text) : (h.search term).1.InPlace := by
  simp only [History.search]
  split
  · exact hplace
  · next hit hfind =>
    have hlt : hit < h.size :=
      lt_of_mem_scanOrder (Nat.min_le_right h.gap _) (List.mem_of_find?_eq_some hfind)
    refine ⟨hplace.fetch, ?_⟩
    dsimp only
    split
    · exact Nat.le_of_lt hlt
    · exact hlt

theorem InPlace.perform (hplace : h.InPlace) (op : HistoryOp) : (h.perform op).1.InPlace := by
  cases op with
  | push entry => exact inPlace_resetPositions _
  | previous => exact hplace.previous
  | next => exact hplace.next
  | search term => exact hplace.search term
  | clear => exact inPlace_resetPositions _
  | get index => exact hplace
  | setDraft line => exact ⟨hplace.fetch, hplace.gap⟩
  | setDirection direction => exact ⟨hplace.fetch, hplace.gap⟩
  | setEnabled on => exact ⟨hplace.fetch, hplace.gap⟩

/-- Whatever is done with a history, its positions stay in place. -/
theorem InPlace.run (hplace : h.InPlace) (ops : List HistoryOp) : (h.run ops).InPlace := by
  induction ops generalizing h with
  | nil => exact hplace
  | cons op ops ih => exact ih (hplace.perform op)

/-- A history without entries has its positions at the start. -/
theorem inPlace_new (capacity : Nat) (file : Option HistoryFile) :
    InPlace { capacity, file } :=
  ⟨Nat.le_refl _, Nat.le_refl _⟩

end LineEditor.History
