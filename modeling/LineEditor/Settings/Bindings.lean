import LineEditor.Text.Basic

/-!
# Bindings

The bindings that a user writes down: written keys with names of actions. They are kept in the
order of the written keys, code point by code point, and each written key is there once. Since
several spellings may mean the same key, the order decides which of them wins.

## Main definitions

* `Bindings`, `Bindings.insert`, `Bindings.ofList`.
-/

namespace LineEditor

/-- Written keys with names of actions, in strictly rising order of the keys. -/
structure Bindings where
  entries : List (Text × Text)
  ordered : entries.Pairwise (·.1 < ·.1)
  deriving DecidableEq, Repr

namespace Bindings

/-- No bindings. -/
def empty : Bindings := ⟨[], .nil⟩

instance : Inhabited Bindings := ⟨empty⟩

/-- Puts an entry into its place, instead of one with the same key. -/
def insertEntry (key action : Text) : List (Text × Text) → List (Text × Text)
  | [] => [(key, action)]
  | e :: rest =>
    if key < e.1 then (key, action) :: e :: rest
    else if key = e.1 then (key, action) :: rest
    else e :: insertEntry key action rest

theorem mem_insertEntry {key action : Text} {entries : List (Text × Text)} {e : Text × Text}
    (h : e ∈ insertEntry key action entries) : e = (key, action) ∨ e ∈ entries := by
  induction entries with
  | nil => exact .inl (List.mem_singleton.mp h)
  | cons e' rest ih =>
    rw [insertEntry] at h
    split at h
    · exact List.mem_cons.mp h
    · split at h
      · exact (List.mem_cons.mp h).imp_right (List.mem_cons_of_mem _)
      · cases List.mem_cons.mp h with
        | inl h => exact .inr (h ▸ List.mem_cons_self)
        | inr h => exact (ih h).imp_right (List.mem_cons_of_mem _)

theorem pairwise_insertEntry (key action : Text) {entries : List (Text × Text)}
    (h : entries.Pairwise (·.1 < ·.1)) : (insertEntry key action entries).Pairwise (·.1 < ·.1) := by
  induction entries with
  | nil => exact List.pairwise_singleton _ _
  | cons e rest ih =>
    obtain ⟨hhead, htail⟩ := List.pairwise_cons.mp h
    rw [insertEntry]
    split
    · rename_i hlt
      refine List.pairwise_cons.mpr ⟨fun e' he' => ?_, h⟩
      -- everything behind comes after `e`, which the new key comes before
      cases List.mem_cons.mp he' with
      | inl he' => exact he' ▸ hlt
      | inr he' => exact List.lt_trans hlt (hhead e' he')
    · split
      · rename_i heq
        exact List.pairwise_cons.mpr ⟨fun e' he' => heq ▸ hhead e' he', htail⟩
      · rename_i hlt hne
        refine List.pairwise_cons.mpr ⟨fun e' he' => ?_, ih htail⟩
        cases mem_insertEntry he' with
        | inl he' =>
          refine he' ▸ Decidable.byContradiction fun hgt => hne ?_
          exact Std.Trichotomous.trichotomous (r := (· < ·)) key e.1 hlt hgt
        | inr he' => exact hhead e' he'

/-- Adds a binding. -/
def insert (b : Bindings) (key action : Text) : Bindings :=
  ⟨insertEntry key action b.entries, pairwise_insertEntry key action b.ordered⟩

/-- The bindings of a list, of which a later one replaces an earlier one of the same key. -/
def ofList (entries : List (Text × Text)) : Bindings :=
  entries.foldl (fun b e => b.insert e.1 e.2) empty

end Bindings

end LineEditor
