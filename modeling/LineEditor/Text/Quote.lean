import LineEditor.Text.Basic

/-!
# Open quotes

Whether a text ends inside a quotation decides whether a line goes on after Enter.

## Main definitions

* `QuoteKinds` says which quote characters count.
* `QuoteContinuation` is the setting a user makes.
* `Text.endsInQuote` decides whether a quotation is open at the end.
-/

namespace LineEditor

/-- Which quote characters open and close quotations; the others are ordinary text. -/
structure QuoteKinds where
  single : Bool
  double : Bool
  deriving DecidableEq, Repr

namespace QuoteKinds

def both : QuoteKinds := ⟨true, true⟩

def singleOnly : QuoteKinds := ⟨true, false⟩

def doubleOnly : QuoteKinds := ⟨false, true⟩

def none : QuoteKinds := ⟨false, false⟩

end QuoteKinds

/-- Which open quotations make an entry go on after Enter. -/
inductive QuoteContinuation
  | enabled
  | disabled
  | ignoreDouble
  | ignoreSingle
  deriving DecidableEq, Repr

namespace QuoteContinuation

/-- The kinds that make an entry go on. -/
def kinds : QuoteContinuation → QuoteKinds
  | enabled => .both
  | disabled => .none
  | ignoreDouble => .singleOnly
  | ignoreSingle => .doubleOnly

/-- The names of the settings. -/
def names : List (String × QuoteContinuation) :=
  [("enabled", enabled), ("disabled", disabled), ("ignore-double", ignoreDouble),
    ("ignore-single", ignoreSingle)]

end QuoteContinuation

namespace Text

/-- Where a scan for quotations stands: after a backslash or not, inside which quotation. -/
structure QuoteScan where
  escaped : Bool := false
  single : Bool := false
  double : Bool := false
  deriving DecidableEq, Repr

/-- One character of the scan. A backslash escapes the next character, and an escaped backslash
does not; a quote that is not escaped and not inside a quotation of the other kind opens or
closes one. -/
def QuoteScan.step (kinds : QuoteKinds) (s : QuoteScan) (c : Char) : QuoteScan :=
  if c = '\\' then { s with escaped := !s.escaped }
  else if c = '\'' ∧ kinds.single ∧ !s.escaped ∧ !s.double then
    { s with single := !s.single, escaped := false }
  else if c = '"' ∧ kinds.double ∧ !s.escaped ∧ !s.single then
    { s with double := !s.double, escaped := false }
  else { s with escaped := false }

/-- Whether the text ends inside a quotation of one of the kinds. -/
def endsInQuote (kinds : QuoteKinds) (t : Text) : Bool :=
  let s := t.foldl (QuoteScan.step kinds) {}
  s.single || s.double

theorem foldl_step_none (s : QuoteScan) (h : s.single = false ∧ s.double = false) (t : Text) :
    (t.foldl (QuoteScan.step .none) s).single = false ∧
      (t.foldl (QuoteScan.step .none) s).double = false := by
  induction t generalizing s with
  | nil => exact h
  | cons c t ih =>
    refine ih _ ?_
    by_cases hc : c = '\\' <;> simp [QuoteScan.step, QuoteKinds.none, hc, h]

/-- Where no quote character counts, no quotation is open. -/
@[simp]
theorem endsInQuote_none (t : Text) : endsInQuote .none t = false := by
  have h := foldl_step_none {} ⟨rfl, rfl⟩ t
  simp [endsInQuote, h]

end Text

end LineEditor
