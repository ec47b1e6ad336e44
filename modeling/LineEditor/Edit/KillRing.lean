import LineEditor.Text.Basic

/-!
# The kill ring

Text that an edit removes can be put back. The ring keeps the last few removed texts.

## Main definitions

* `KillRing`, `KillRing.add`, `KillRing.newest?`.
-/

namespace LineEditor

/-- Removed texts with the oldest first. -/
structure KillRing where
  entries : List Text := []
  deriving DecidableEq, Repr

namespace KillRing

/-- How many texts are kept. -/
def capacity : Nat := 10

/-- The last `capacity` members of a list. -/
def keepNewest (entries : List Text) : List Text :=
  entries.drop (entries.length - capacity)

/-- Adds a text that is not empty. -/
def add (r : KillRing) (t : Text) : KillRing :=
  if t.isEmpty then r else ⟨keepNewest (r.entries ++ [t])⟩

/-- The text that was removed last. -/
def newest? (r : KillRing) : Option Text :=
  r.entries.getLast?

theorem length_keepNewest_le (entries : List Text) :
    (keepNewest entries).length ≤ capacity := by
  simp [keepNewest]; omega

@[simp]
theorem add_nil (r : KillRing) : r.add [] = r := rfl

theorem newest?_add {t : Text} (h : t ≠ []) (r : KillRing) : (r.add t).newest? = some t := by
  have hlt : (r.entries ++ [t]).length - capacity < (r.entries ++ [t]).length := by
    simp only [capacity, List.length_append, List.length_singleton]
    omega
  simp only [newest?, add, List.isEmpty_iff, h, if_false, keepNewest]
  rw [List.getLast?_drop, if_neg (by omega)]
  simp

end KillRing

end LineEditor
