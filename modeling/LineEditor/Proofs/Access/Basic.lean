import LineEditor.Charset.Utf8

/-!
# Accesses that may be out of range

An index, a slice or a difference means something only where it is in range. Elsewhere in this
library the operations are total: a slice is cut short at the end of a list, a difference stops at
zero, and a quotient by zero is zero. The operations of this module come to nothing when they are
out of range. A computation that is written with them, and with `l[i]?` for an index, comes to a
result only if all of its accesses are in range; and to show that it does, it is compared with the
total computation that it belongs to.

Sums are not checked, with the exception of those that are stored in an octet: numbers are natural
numbers here, and places in a text never get near the largest number of a machine.

## Main definitions

* `Access.slice?`, `Access.drain?`, `Access.splice?`, `Access.remove?` access a list.
* `Access.minus?` and `Access.ceilDiv?` calculate, and `Access.byte?` is a sum of two octets.
* `Access.beginning?` cuts a text behind a number of octets, `Access.cutEnd?` in front of some.
* `Gives` — a checked computation comes to the result of a total one.

## Main results

* `Gives.bind` — one checked computation goes on with the result of another.
-/

namespace LineEditor

namespace Access

variable {α : Type}

/-- The members from `start` up to `stop`. -/
def slice? (l : List α) (start stop : Nat) : Option (List α) :=
  if start ≤ stop ∧ stop ≤ l.length then some ((l.take stop).drop start) else none

/-- The list without the members from `start` up to `stop`, and these members. -/
def drain? (l : List α) (start stop : Nat) : Option (List α × List α) :=
  if start ≤ stop ∧ stop ≤ l.length then
    some (l.take start ++ l.drop stop, (l.take stop).drop start)
  else none

/-- The list with some members put in at a place. -/
def splice? (l : List α) (place : Nat) (new : List α) : Option (List α) :=
  if place ≤ l.length then some (l.take place ++ new ++ l.drop place) else none

/-- The list without the member at an index. -/
def remove? (l : List α) (index : Nat) : Option (List α) :=
  if index < l.length then some (l.eraseIdx index) else none

/-- A difference that is not negative. -/
def minus? (a b : Nat) : Option Nat :=
  if b ≤ a then some (a - b) else none

/-- The quotient by a number other than zero, rounded up. -/
def ceilDiv? (n d : Nat) : Option Nat :=
  if d = 0 then none else some ((n + d - 1) / d)

/-- A sum that fits into an octet. -/
def byte? (a b : Nat) : Option Nat :=
  if a + b < 256 then some (a + b) else none

/-- The number of octets of a text. -/
def size (t : Text) : Nat :=
  (Utf8.encode t).length

/-- The beginning of a text with a number of octets. A character cannot be cut. -/
def beginning? : Nat → Text → Option Text
  | 0, _ => some []
  | _ + 1, [] => none
  | n + 1, c :: rest =>
    if size [c] ≤ n + 1 then (beginning? (n + 1 - size [c]) rest).map (c :: ·) else none

/-- A text without as many octets at its end as another text has. -/
def cutEnd? (t ending : Text) : Option Text := do
  let stop ← minus? (size t) (size ending)
  beginning? stop t

variable {l : List α}

theorem slice?_eq {start stop : Nat} (h : start ≤ stop ∧ stop ≤ l.length) :
    slice? l start stop = some ((l.take stop).drop start) :=
  if_pos h

/-- A slice that begins at the start. -/
theorem slice?_zero {stop : Nat} (h : stop ≤ l.length) : slice? l 0 stop = some (l.take stop) :=
  slice?_eq ⟨Nat.zero_le _, h⟩

/-- A slice that goes on to the end. -/
theorem slice?_length {start : Nat} (h : start ≤ l.length) :
    slice? l start l.length = some (l.drop start) := by
  rw [slice?_eq ⟨h, Nat.le_refl _⟩, List.take_length]

theorem drain?_eq {start stop : Nat} (h : start ≤ stop ∧ stop ≤ l.length) :
    drain? l start stop = some (l.take start ++ l.drop stop, (l.take stop).drop start) :=
  if_pos h

theorem splice?_eq {place : Nat} (h : place ≤ l.length) (new : List α) :
    splice? l place new = some (l.take place ++ new ++ l.drop place) :=
  if_pos h

theorem remove?_zero (h : l ≠ []) : remove? l 0 = some l.tail := by
  have hpos : 0 < l.length := List.length_pos_iff.mpr h
  rw [remove?, if_pos hpos, List.eraseIdx_zero]

theorem minus?_eq {a b : Nat} (h : b ≤ a) : minus? a b = some (a - b) :=
  if_pos h

theorem ceilDiv?_eq {n d : Nat} (h : 0 < d) : ceilDiv? n d = some ((n + d - 1) / d) :=
  if_neg (Nat.ne_of_gt h)

theorem byte?_eq {a b : Nat} (h : a + b < 256) : byte? a b = some (a + b) :=
  if_pos h

theorem size_append (s t : Text) : size (s ++ t) = size s + size t := by
  rw [size, Utf8.encode_append, List.length_append]
  rfl

theorem size_cons (c : Char) (t : Text) : size (c :: t) = size [c] + size t :=
  size_append [c] t

/-- A character takes at least one octet. -/
theorem size_singleton_pos (c : Char) : 0 < size [c] := by
  simp only [size, Utf8.encode, Utf8.encodeChar, List.flatMap_cons, List.flatMap_nil]
  split
  · exact Nat.zero_lt_succ _
  · split
    · exact Nat.zero_lt_succ _
    · split
      · exact Nat.zero_lt_succ _
      · exact Nat.zero_lt_succ _

/-- A text can be cut behind any of its characters. -/
theorem beginning?_size (s t : Text) : beginning? (size s) (s ++ t) = some s := by
  induction s with
  | nil =>
    have hnone : size [] = 0 := rfl
    rw [hnone, beginning?]
  | cons c s ih =>
    have hpos := size_singleton_pos c
    obtain ⟨n, hn⟩ : ∃ n, size (c :: s) = n + 1 :=
      Nat.exists_eq_succ_of_ne_zero (by rw [size_cons]; omega)
    have hsize := size_cons c s
    have hrest : n + 1 - size [c] = size s := by omega
    rw [hn, List.cons_append, beginning?, if_pos (by omega), hrest, ih]
    rfl

/-- Within a character, a text cannot be cut. -/
example : beginning? 1 ['é'] = none := by decide

/-- What a text ends in can be cut off. -/
theorem cutEnd?_append (s t : Text) : cutEnd? (s ++ t) t = some s := by
  rw [cutEnd?, size_append, minus?_eq (Nat.le_add_left _ _), Nat.add_sub_cancel]
  exact beginning?_size s t

end Access

/-- A checked computation comes to the result of a total one, and the result has a property. -/
structure Gives {α : Type} (checked : Option α) (total : α) (ok : α → Prop) : Prop where
  eq : checked = some total
  ok : ok total

namespace Gives

variable {α β : Type} {checked : Option α} {total : α} {ok : α → Prop}

protected theorem pure {a : α} (h : ok a) : Gives (pure a) a ok :=
  ⟨rfl, h⟩

/-- A computation goes on with the result of another one. -/
protected theorem bind {next : α → Option β} {result : β} {done : β → Prop}
    (h : Gives checked total ok) (hnext : ok total → Gives (next total) result done) :
    Gives (checked >>= next) result done := by
  obtain ⟨rfl, hok⟩ := h
  exact hnext hok

end Gives

/-- Several computations of the same kind. -/
theorem mapM_eq_some {α β : Type} {checked : α → Option β} {total : α → β} {l : List α}
    (h : ∀ a ∈ l, checked a = some (total a)) : l.mapM checked = some (l.map total) := by
  induction l with
  | nil => rfl
  | cons a l ih =>
    have hrest := ih fun b hb => h b (List.mem_cons_of_mem a hb)
    rw [List.mapM_cons, h a List.mem_cons_self, hrest]
    rfl

/-- What is known to be `some` is the result, of which nothing more is said. -/
theorem gives_of_eq {α : Type} {checked : Option α} {total : α} (h : checked = some total) :
    Gives checked total (· = total) :=
  ⟨h, rfl⟩

end LineEditor
