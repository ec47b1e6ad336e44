import LineEditor.Charset.Utf8

/-!
# Charsets

A connection carries octets in a charset. The decoder turns reads into characters and holds an
incomplete sequence until the next read; the encoder does the reverse.

## Main definitions

* `Charset`, `Charset.ofText`.
* `Decoder.decode`, `Charset.encode`.
-/

namespace LineEditor

/-- The encoding of a stream of octets. In `latin1` every octet is the code point of the same
value. -/
inductive Charset
  | utf8
  | latin1
  deriving DecidableEq, Repr

namespace Charset

/-- The names of the charsets. -/
def names : List (String × Charset) :=
  [("utf-8", .utf8), ("utf8", .utf8), ("iso-8859-1", .latin1), ("latin1", .latin1),
    ("latin-1", .latin1)]

/-- A name that belongs to no charset, in lower case. -/
structure Unsupported where
  name : Text
  deriving DecidableEq, Repr

/-- The report of an unknown name. -/
def Unsupported.message (e : Unsupported) : Text :=
  "unsupported charset `".toList ++ e.name ++ "`".toList

/-- Reads the name of a charset, in any case. -/
def ofText (t : Text) : Except Unsupported Charset :=
  match Text.named? names t with
  | some charset => .ok charset
  | none => .error ⟨Text.lowerAscii t⟩

/-- The octet of a character in Latin-1. Characters without one become a question mark. -/
def latin1Octet (c : Char) : UInt8 :=
  if c.toNat < 0x100 then c.toNat.toUInt8 else '?'.toNat.toUInt8

/-- The octets of a text. -/
def encode : Charset → Text → Octets
  | utf8, t => Utf8.encode t
  | latin1, t => t.map latin1Octet

end Charset

/-- The decoder of a stream: its charset, and the octets that wait for the rest of a
character. -/
structure Decoder where
  charset : Charset
  held : Octets := []
  deriving DecidableEq, Repr

namespace Decoder

/-- Decodes one read. -/
def decode (d : Decoder) (octets : Octets) : Decoder × Text :=
  match d.charset with
  | .utf8 =>
    let (held, t) := Utf8.decode d.held octets
    ({ d with held }, t)
  | .latin1 => (d, octets.map fun b => Char.ofNat b.toNat)

@[simp]
theorem charset_decode (d : Decoder) (octets : Octets) :
    (d.decode octets).1.charset = d.charset := by
  cases h : d.charset <;> simp [decode, h]

/-- Decoding does not depend on where the octets are cut. -/
theorem decode_append (d : Decoder) (s t : Octets) :
    d.decode (s ++ t) =
      (((d.decode s).1.decode t).1, (d.decode s).2 ++ ((d.decode s).1.decode t).2) := by
  cases h : d.charset <;> simp [decode, h, Utf8.decode_append]

end Decoder

end LineEditor
