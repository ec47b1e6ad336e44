import LineEditor.Text.Basic

/-!
# UTF-8, one octet at a time

Input arrives in chunks that may end inside a character, so decoding is a machine with one step
for each octet. Between steps it holds the start of a well-formed sequence that is not complete.
An octet that cannot continue what is held shows that the held octets are ill-formed: they become
one replacement character, and the octet is looked at anew.

## Main definitions

* `Utf8.continues` says which octets may follow which.
* `Utf8.step` and `Utf8.decode` are the machine.
* `Utf8.encodeChar` and `Utf8.encode` write characters.
-/

namespace LineEditor

/-- Octets, as they are read from and written to a terminal or a file. -/
abbrev Octets := List UInt8

namespace Utf8

/-- What stands for octets that are not text. -/
def replacement : Char := '\uFFFD'

/-- How many octets a sequence has that starts with `lead`; none does when this is 0. -/
def sequenceLength (lead : UInt8) : Nat :=
  if lead < 0x80 then 1
  else if lead < 0xC2 then 0
  else if lead < 0xE0 then 2
  else if lead < 0xF0 then 3
  else if lead < 0xF5 then 4
  else 0

/-- Whether `b` may be the second octet after `lead`: overlong forms, surrogates and values
past U+10FFFF are excluded. -/
def allowsSecond (lead b : UInt8) : Bool :=
  if lead = 0xE0 then 0xA0 ≤ b && b ≤ 0xBF
  else if lead = 0xED then 0x80 ≤ b && b ≤ 0x9F
  else if lead = 0xF0 then 0x90 ≤ b && b ≤ 0xBF
  else if lead = 0xF4 then 0x80 ≤ b && b ≤ 0x8F
  else 0x80 ≤ b && b ≤ 0xBF

/-- Whether `b` may follow the held octets. -/
def continues : Octets → UInt8 → Bool
  | [], _ => false
  | [lead], b => allowsSecond lead b
  | _ :: _ :: _, b => 0x80 ≤ b && b ≤ 0xBF

/-- The character that a complete sequence stands for. -/
def charOf : Octets → Char
  | [a] => Char.ofNat a.toNat
  | [a, b] => Char.ofNat (a.toNat % 0x20 * 0x40 + b.toNat % 0x40)
  | [a, b, c] => Char.ofNat (a.toNat % 0x10 * 0x1000 + b.toNat % 0x40 * 0x40 + c.toNat % 0x40)
  | [a, b, c, d] =>
    Char.ofNat (a.toNat % 8 * 0x40000 + b.toNat % 0x40 * 0x1000 + c.toNat % 0x40 * 0x40 +
      d.toNat % 0x40)
  | _ => replacement

/-- An octet with nothing held: a character, the start of a longer one, or ill-formed. -/
def stepStart (b : UInt8) : Octets × Text :=
  match sequenceLength b with
  | 0 => ([], [replacement])
  | 1 => ([], [charOf [b]])
  | _ => ([b], [])

/-- One octet: what is held after it, and the characters it completes. -/
def step (held : Octets) (b : UInt8) : Octets × Text :=
  match held with
  | [] => stepStart b
  | lead :: _ =>
    if continues held b then
      let sequence := held ++ [b]
      if sequence.length = sequenceLength lead then ([], [charOf sequence]) else (sequence, [])
    else
      -- what is held never gets complete, and `b` belongs to something new
      let (next, out) := stepStart b
      (next, replacement :: out)

/-- Several octets, one after the other. -/
def decode (held : Octets) : Octets → Octets × Text
  | [] => (held, [])
  | b :: rest =>
    let (held, first) := step held b
    let (held, others) := decode held rest
    (held, first ++ others)

/-- The octets of a character. -/
def encodeChar (c : Char) : Octets :=
  let n := c.toNat
  if n < 0x80 then [n.toUInt8]
  else if n < 0x800 then [(0xC0 + n / 0x40).toUInt8, (0x80 + n % 0x40).toUInt8]
  else if n < 0x10000 then
    [(0xE0 + n / 0x1000).toUInt8, (0x80 + n / 0x40 % 0x40).toUInt8, (0x80 + n % 0x40).toUInt8]
  else
    [(0xF0 + n / 0x40000).toUInt8, (0x80 + n / 0x1000 % 0x40).toUInt8,
      (0x80 + n / 0x40 % 0x40).toUInt8, (0x80 + n % 0x40).toUInt8]

/-- The octets of a text. -/
def encode (t : Text) : Octets :=
  t.flatMap encodeChar

/-- The text that octets stand for, when all of them are well-formed. -/
def decodeStrict? (octets : Octets) : Option Text :=
  let (held, t) := decode [] octets
  -- a character that replaces ill-formed octets is encoded in other octets than those
  if held = [] ∧ encode t = octets then some t else none

@[simp]
theorem decode_nil (held : Octets) : decode held [] = (held, []) := rfl

theorem decode_cons (held : Octets) (b : UInt8) (rest : Octets) :
    decode held (b :: rest) =
      ((decode (step held b).1 rest).1, (step held b).2 ++ (decode (step held b).1 rest).2) := rfl

/-- Decoding does not depend on where the octets are cut. -/
theorem decode_append (held s t : Octets) :
    decode held (s ++ t) =
      ((decode (decode held s).1 t).1, (decode held s).2 ++ (decode (decode held s).1 t).2) := by
  induction s generalizing held with
  | nil => simp
  | cons b s ih => simp [decode_cons, ih]

@[simp]
theorem encode_nil : encode [] = [] := rfl

theorem encode_append (s t : Text) : encode (s ++ t) = encode s ++ encode t := by
  simp [encode]

end Utf8

end LineEditor
