/-!
# Sets of code points

A set of code points is written as the increasing list of the points where membership changes.
Long runs, which are what the Unicode properties consist of, cost two entries each.

## Main definitions

* `Ranges` and `Ranges.contains`.
-/

namespace LineEditor.Unicode

/-- A set of code points, given by its edges in increasing order. The points below the first
edge are outside, and each edge is the first point of a run inside or outside. -/
structure Ranges where
  edges : List Nat
  deriving DecidableEq, Repr

namespace Ranges

/-- Whether `n` is inside, when the points below the first edge are outside. -/
def inside : List Nat → Nat → Bool
  | [], _ => false
  | edge :: rest, n => if n < edge then false else !inside rest n

/-- Membership of a character. -/
def contains (r : Ranges) (c : Char) : Bool :=
  inside r.edges c.toNat

@[simp]
theorem inside_nil (n : Nat) : inside [] n = false := rfl

theorem inside_of_lt {edge n : Nat} (rest : List Nat) (h : n < edge) :
    inside (edge :: rest) n = false := by
  simp [inside, h]

theorem inside_of_le {edge n : Nat} (rest : List Nat) (h : edge ≤ n) :
    inside (edge :: rest) n = !inside rest n := by
  simp [inside, Nat.not_lt.mpr h]

end Ranges

end LineEditor.Unicode
