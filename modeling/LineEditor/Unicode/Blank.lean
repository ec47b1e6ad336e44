import LineEditor.Unicode.Ranges

/-!
# Blanks and control characters

Blanks are the code points with the Unicode property White_Space, control characters those of
the general category Cc. Both sets are closed by the standard and will not grow.

## Main definitions

* `isBlank`, `isControl`.
-/

namespace LineEditor.Unicode

/-- White space. -/
def blanks : Ranges where
  edges := [
    0x0009, 0x000E, 0x0020, 0x0021, 0x0085, 0x0086, 0x00A0, 0x00A1, 0x1680, 0x1681, 0x2000,
    0x200B, 0x2028, 0x202A, 0x202F, 0x2030, 0x205F, 0x2060, 0x3000, 0x3001]

/-- Whether `c` is white space. -/
def isBlank (c : Char) : Bool :=
  blanks.contains c

/-- Whether `c` is one of the control characters U+0000..U+001F and U+007F..U+009F. -/
def isControl (c : Char) : Bool :=
  c.toNat < 0x20 || (0x7F ≤ c.toNat && c.toNat ≤ 0x9F)

theorem isBlank_space : isBlank ' ' = true := by decide

theorem isControl_eq_false_of_printable {c : Char} (h : ' ' ≤ c) (h' : c ≤ '~') :
    isControl c = false := by
  have h₁ : 0x20 ≤ c.toNat := h
  have h₂ : c.toNat ≤ 0x7E := h'
  simp only [isControl, Bool.or_eq_false_iff, decide_eq_false_iff_not, Bool.and_eq_false_iff]
  omega

end LineEditor.Unicode
