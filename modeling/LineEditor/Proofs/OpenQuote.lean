import LineEditor.Proofs.Continuation
import LineEditor.Text.Words
import Mathlib.Data.List.Infix

/-!
# Open quotations, told by two scans

Whether a quotation is open at the end of a text is told by the scan that splits a line into words,
and again by the shorter scan that decides whether a line goes on. The two keep in step as long as
no verbatim part starts, for which the shorter scan knows no state. A verbatim part is asked for by
two double quotes side by side. But the longer scan looks at the character before a double quote
without asking whether it was escaped, so that an escaped double quote at the end of a quotation
starts one as well.

## Main definitions

* `Text.NoBarePair` — no two double quotes stand side by side that are not escaped.
* `Text.NoPairInQuotation` — no escaped double quote stands at the end of a double quotation.
* `WordScan.InStep` — the two scans are in corresponding states.

## Main results

* `WordScan.inStep_step` — one character keeps the scans in step unless it starts a verbatim part.
* `Text.unclosedQuote_iff_endsInQuote_iff` — for which texts the two scans agree.
-/

namespace LineEditor

namespace Text

/-- The state of the scan for quotations at the end of a text. -/
def quoteScan (t : Text) : QuoteScan :=
  t.foldl (QuoteScan.step .both) {}

/-- A double quote that is not escaped is never directly followed by another one: a verbatim part
is not asked for. -/
def NoBarePair (t : Text) : Prop :=
  ∀ p : Text, p ++ ['"', '"'] <+: t →
    p.endsInEscape = true ∨ endsInEscape (p ++ ['"']) = true

/-- No escaped double quote within a double quotation is directly followed by another double
quote. -/
def NoPairInQuotation (t : Text) : Prop :=
  ∀ p : Text, p ++ ['"', '"'] <+: t → p.endsInEscape = true → p.quoteScan.double = false

/-- What is said about all places with two double quotes can be tried at each place. -/
theorem forall_inits_iff {t : Text} {P : Text → Prop} :
    (∀ p ∈ t.inits, p ++ ['"', '"'] <+: t → P p) ↔ ∀ p, p ++ ['"', '"'] <+: t → P p := by
  constructor
  · intro h p hp
    exact h p ((List.mem_inits p t).mpr ((List.prefix_append p _).trans hp)) hp
  · intro h p _ hp
    exact h p hp

instance (t : Text) : Decidable t.NoBarePair :=
  decidable_of_iff _ forall_inits_iff

instance (t : Text) : Decidable t.NoPairInQuotation :=
  decidable_of_iff (∀ p ∈ t.inits, p ++ ['"', '"'] <+: t →
    endsInEscape p = true → (quoteScan p).double = false) forall_inits_iff

@[simp]
theorem quoteScan_concat (t : Text) (c : Char) :
    quoteScan (t ++ [c]) = (quoteScan t).step .both c := by
  rw [quoteScan, List.foldl_append]
  rfl

theorem endsInQuote_both_eq (t : Text) :
    t.endsInQuote .both = (t.quoteScan.single || t.quoteScan.double) := rfl

theorem endsInEscape_concat (t : Text) (c : Char) :
    endsInEscape (t ++ [c]) = (decide (c = '\\') && !t.endsInEscape) := by
  by_cases hc : c = '\\'
  · have hlength : ((t ++ [c]).reverse.takeWhile (· = '\\')).length =
        (t.reverse.takeWhile (· = '\\')).length + 1 := by simp [hc]
    rw [endsInEscape, endsInEscape, hlength, hc]
    grind
  · simp [endsInEscape, hc]

/-- The scan knows at each place whether the next character is escaped. -/
theorem escaped_quoteScan (t : Text) : t.quoteScan.escaped = t.endsInEscape := by
  induction t using List.reverseRecOn with
  | nil => rfl
  | append_singleton t c ih =>
    rw [quoteScan_concat, endsInEscape_concat, ← ih, QuoteScan.step]
    grind

/-- The quotation that the scan is inside of. -/
def QuoteScan.quoting (q : QuoteScan) : Quoting :=
  if q.single then .single else if q.double then .double else .bare

end Text

namespace WordScan

open Text

/-- The two scans are at the same place: they know alike whether the next character is escaped, and
they are inside the same quotation. -/
structure InStep (s : WordScan) (q : QuoteScan) : Prop where
  escaped : s.escaped = q.escaped
  quoting : s.quoting = q.quoting
  one : (q.single && q.double) = false

/-- The character starts a verbatim part. -/
def StartsVerbatim (s : WordScan) (c : Char) : Prop :=
  c = '"' ∧ s.escaped = false ∧ s.quoting = .double ∧ s.prev = some '"'

variable {s : WordScan} {q : QuoteScan} {c : Char}

@[simp]
theorem escaped_close (s : WordScan) : s.close.escaped = s.escaped := by
  rw [close]
  split
  · rfl
  · rfl

@[simp]
theorem quoting_close (s : WordScan) : s.close.quoting = s.quoting := by
  rw [close]
  split
  · rfl
  · rfl

/-- A character that the shorter scan passes over, and of which the longer one takes notice as text
only. -/
theorem InStep.passed (h : s.InStep q) {s' : WordScan} (hescaped : s'.escaped = false)
    (hquoting : s'.quoting = s.quoting) : s'.InStep { q with escaped := false } :=
  ⟨hescaped, hquoting.trans h.quoting, h.one⟩

theorem InStep.onSpace (h : s.InStep q) : s.onSpace.InStep { q with escaped := false } := by
  rw [WordScan.onSpace]
  split
  · exact h.passed rfl rfl
  · next hescaped =>
    have hfalse : s.escaped = false := Bool.eq_false_iff.mpr hescaped
    split
    · exact h.passed (s.escaped_close.trans hfalse) s.quoting_close
    · exact h.passed hfalse rfl

theorem InStep.onOther (h : s.InStep q) (c : Char) :
    (s.onOther c).InStep { q with escaped := false } := by
  rw [WordScan.onOther]
  split
  · exact h.passed rfl rfl
  · next hescaped => exact h.passed (Bool.eq_false_iff.mpr hescaped) rfl

theorem InStep.quoting_ne_verbatim (h : s.InStep q) : s.quoting ≠ .verbatim := by
  rw [h.quoting, QuoteScan.quoting]
  split
  · exact Quoting.noConfusion
  · split
    · exact Quoting.noConfusion
    · exact Quoting.noConfusion

theorem InStep.onBackslash (h : s.InStep q) :
    s.onBackslash.InStep { q with escaped := !q.escaped } := by
  have hverbatim := h.quoting_ne_verbatim
  rw [WordScan.onBackslash]
  cases hescaped : s.escaped with
  | true =>
    refine ⟨?_, h.quoting, h.one⟩
    rw [← h.escaped, hescaped]
    rfl
  | false =>
    rw [if_neg (by simpa using hverbatim)]
    refine ⟨?_, h.quoting, h.one⟩
    rw [← h.escaped, hescaped]
    rfl

/-- The states of the shorter scan that are in step with the longer one, by its quotation. -/
theorem InStep.eq_of_quoting (h : s.InStep q) :
    q = match s.quoting with
      | .bare => ⟨s.escaped, false, false⟩
      | .single => ⟨s.escaped, true, false⟩
      | .double => ⟨s.escaped, false, true⟩
      | .verbatim => q := by
  obtain ⟨escaped, single, double⟩ := q
  obtain ⟨hescaped, hquoting, hone⟩ := h
  rw [hquoting, hescaped]
  cases single with
  | true =>
    have hdouble : double = false := hone
    rw [hdouble]
    rfl
  | false => cases double <;> rfl

theorem InStep.onSingleQuote (h : s.InStep q) :
    s.onSingleQuote.InStep (q.step .both '\'') := by
  have hq := h.eq_of_quoting
  have hverbatim := h.quoting_ne_verbatim
  rw [WordScan.onSingleQuote]
  cases hescaped : s.escaped with
  | true =>
    have hstep : q.step .both '\'' = { q with escaped := false } := by
      simp [QuoteScan.step, ← h.escaped, hescaped]
    rw [hstep]
    exact h.passed rfl rfl
  | false =>
    rw [hescaped] at hq
    rw [if_neg Bool.false_ne_true]
    cases hquoting : s.quoting with
    | bare | single | double =>
      rw [hquoting] at hq
      rw [hq]
      refine ⟨?_, ?_, rfl⟩
      · simp [WordScan.put, hescaped, QuoteScan.step, QuoteKinds.both]
      · simp [WordScan.put, hquoting, QuoteScan.step, QuoteKinds.both, QuoteScan.quoting]
    | verbatim => exact absurd hquoting hverbatim

theorem InStep.onDoubleQuote (h : s.InStep q) (hc : ¬s.StartsVerbatim '"') :
    s.onDoubleQuote.InStep (q.step .both '"') := by
  have hq := h.eq_of_quoting
  have hverbatim := h.quoting_ne_verbatim
  rw [WordScan.onDoubleQuote]
  cases hescaped : s.escaped with
  | true =>
    have hstep : q.step .both '"' = { q with escaped := false } := by
      simp [QuoteScan.step, ← h.escaped, hescaped]
    rw [hstep]
    exact h.passed rfl rfl
  | false =>
    rw [hescaped] at hq
    rw [if_neg Bool.false_ne_true]
    cases hquoting : s.quoting with
    | bare | single =>
      rw [hquoting] at hq
      rw [hq]
      refine ⟨?_, ?_, rfl⟩
      · simp [WordScan.put, hescaped, QuoteScan.step, QuoteKinds.both]
      · simp [WordScan.put, hquoting, QuoteScan.step, QuoteKinds.both, QuoteScan.quoting]
    | double =>
      -- the quotation ends, since what came before the quote was no other one
      have hprev : s.prev ≠ some '"' := fun hprev => hc ⟨rfl, hescaped, hquoting, hprev⟩
      rw [hquoting] at hq
      rw [hq]
      simp only [if_neg hprev]
      exact ⟨s.escaped_close.trans hescaped, rfl, rfl⟩
    | verbatim => exact absurd hquoting hverbatim

/-- One character keeps the scans in step unless it starts a verbatim part. -/
theorem inStep_step (h : s.InStep q) (hc : ¬s.StartsVerbatim c) :
    (s.step c).InStep (q.step .both c) := by
  have hof {s' : WordScan} (h' : s'.InStep (q.step .both c)) :
      ({ s' with prev := some c } : WordScan).InStep (q.step .both c) :=
    ⟨h'.escaped, h'.quoting, h'.one⟩
  rw [WordScan.step]
  apply hof
  by_cases hspace : c = ' '
  · subst hspace
    exact h.onSpace
  · by_cases hbackslash : c = '\\'
    · subst hbackslash
      exact h.onBackslash
    · by_cases hsingle : c = '\''
      · subst hsingle
        exact h.onSingleQuote
      · by_cases hdouble : c = '"'
        · subst hdouble
          exact h.onDoubleQuote hc
        · have hstep : q.step .both c = { q with escaped := false } := by
            simp [QuoteScan.step, hbackslash, hsingle, hdouble]
          rw [hstep]
          simp only [hspace, hbackslash, hsingle, hdouble, if_false]
          exact h.onOther c

/-- Where a verbatim part starts, the longer scan is in a quotation and the shorter one is not. -/
theorem StartsVerbatim.out_of_step (h : s.InStep q) (hc : s.StartsVerbatim c) :
    (s.step c).quoting = .verbatim ∧
      ((q.step .both c).single || (q.step .both c).double) = false := by
  obtain ⟨rfl, hescaped, hquoting, hprev⟩ := hc
  have hq := h.eq_of_quoting
  rw [hescaped, hquoting] at hq
  refine ⟨?_, ?_⟩
  · simp [WordScan.step, WordScan.onDoubleQuote, hescaped, hquoting, hprev]
  · rw [hq]
    rfl

@[simp]
theorem ofText_concat (t : Text) (c : Char) : ofText (t ++ [c]) = (ofText t).step c := by
  rw [ofText, List.foldl_append]
  rfl

theorem prev_ofText_concat (t : Text) (c : Char) : (ofText (t ++ [c])).prev = some c := by
  rw [ofText_concat]
  rfl

end WordScan

namespace Text

open WordScan

/-- The scan for words and the scan for quotations agree on whether a quotation is open. -/
def Agree (t : Text) : Prop :=
  (Words.ofLine t none).status = .unclosedQuote ↔ t.endsInQuote .both = true

theorem status_ofLine_eq_unclosedQuote_iff (t : Text) :
    (Words.ofLine t none).status = .unclosedQuote ↔ (ofText t).quoting ≠ .bare := by
  rw [Words.ofLine]
  by_cases h : (ofText t).quoting = .bare
  · simp [h]
  · simp [h]

theorem agree_of_inStep {t : Text} (h : (ofText t).InStep t.quoteScan) : t.Agree := by
  rw [Agree, status_ofLine_eq_unclosedQuote_iff, endsInQuote_both_eq, h.quoting, QuoteScan.quoting]
  cases t.quoteScan.single <;> cases t.quoteScan.double <;> simp

variable {t p : Text}

/-- The scans keep in step as long as no verbatim part starts where they are in step. -/
theorem inStep_of_forall (h : ∀ p c, p ++ [c] <+: t → (ofText p).InStep (quoteScan p) →
    ¬(ofText p).StartsVerbatim c) : (ofText t).InStep (quoteScan t) := by
  induction t using List.reverseRecOn with
  | nil => exact ⟨rfl, rfl, rfl⟩
  | append_singleton t c ih =>
    have hbefore : (ofText t).InStep (quoteScan t) :=
      ih fun p c' hp => h p c' (hp.trans (List.prefix_append t [c]))
    rw [ofText_concat, quoteScan_concat]
    exact inStep_step hbefore (h t c List.prefix_rfl hbefore)

/-- Behind the first half of what would start a verbatim part the scans disagree. -/
theorem not_agree_of_startsVerbatim {c : Char} (h : (ofText p).InStep (quoteScan p))
    (hc : (ofText p).StartsVerbatim c) : ¬Agree (p ++ [c]) := by
  obtain ⟨hverbatim, hnone⟩ := hc.out_of_step h
  rw [Agree, status_ofLine_eq_unclosedQuote_iff, endsInQuote_both_eq, ofText_concat,
    quoteScan_concat, hverbatim, hnone]
  intro hagree
  exact absurd (hagree.mp Quoting.noConfusion) Bool.false_ne_true

/-- Where the scans are in step, a verbatim part is started by a double quote directly behind
another one, within a quotation. -/
theorem startsVerbatim_iff {c : Char} (h : (ofText p).InStep (quoteScan p)) :
    (ofText p).StartsVerbatim c ↔
      c = '"' ∧ ∃ before, p = before ++ ['"'] ∧ (quoteScan p).double = true := by
  constructor
  · rintro ⟨hc, -, hquoting, hprev⟩
    have hdouble : (quoteScan p).double = true := by
      have hq := h.eq_of_quoting
      rw [hquoting] at hq
      rw [hq]
    rcases List.eq_nil_or_concat' p with rfl | ⟨before, last, rfl⟩
    · contradiction
    · rw [prev_ofText_concat] at hprev
      obtain rfl := Option.some.inj hprev
      exact ⟨hc, before, rfl, hdouble⟩
  · rintro ⟨rfl, before, rfl, hdouble⟩
    have hquoting : (ofText (before ++ ['"'])).quoting = .double := by
      have hone := h.one
      rw [hdouble, Bool.and_true] at hone
      rw [h.quoting, QuoteScan.quoting, hone, hdouble]
      rfl
    refine ⟨rfl, ?_, hquoting, prev_ofText_concat before '"'⟩
    rw [h.escaped, escaped_quoteScan, endsInEscape_concat]
    rfl

/-- Behind an escaped double quote the quotation is the one before it. -/
theorem double_quoteScan_concat_of_endsInEscape (h : endsInEscape p = true) :
    (quoteScan (p ++ ['"'])).double = (quoteScan p).double := by
  rw [← escaped_quoteScan] at h
  simp [QuoteScan.step, h]

/-- The two scans agree on whether a quotation is open. A text in which a verbatim part is never
asked for is told alike by both, with all of its beginnings, exactly if no escaped double quote
stands at the end of a double quotation. -/
theorem unclosedQuote_iff_endsInQuote_iff (h : t.NoBarePair) :
    (∀ p, p <+: t →
      ((Words.ofLine p none).status = .unclosedQuote ↔ endsInQuote .both p = true)) ↔
      t.NoPairInQuotation := by
  constructor
  · intro hagree p hp hescaped
    have hpair : p ++ ['"'] ++ ['"'] = p ++ ['"', '"'] := List.append_assoc _ _ _
    -- until the second one of the two quotes the scans are in step
    have hstep : (ofText (p ++ ['"'])).InStep (quoteScan (p ++ ['"'])) := by
      apply inStep_of_forall
      intro p' c hp' hbefore hstarts
      have hbeginning : p' ++ [c] <+: t := by
        refine (hp'.trans ?_).trans hp
        exact hpair ▸ List.prefix_append (p ++ ['"']) ['"']
      exact not_agree_of_startsVerbatim hbefore hstarts (hagree _ hbeginning)
    apply Bool.eq_false_iff.mpr
    intro hdouble
    rw [← double_quoteScan_concat_of_endsInEscape hescaped] at hdouble
    have hstarts := (startsVerbatim_iff hstep).mpr ⟨rfl, p, rfl, hdouble⟩
    exact not_agree_of_startsVerbatim hstep hstarts (hagree _ (hpair ▸ hp))
  · intro hquotation p hp
    apply agree_of_inStep
    apply inStep_of_forall
    intro p' c hp' hbefore hstarts
    obtain ⟨rfl, before, rfl, hdouble⟩ := (startsVerbatim_iff hbefore).mp hstarts
    have hpair : before ++ ['"', '"'] <+: t := by
      rw [List.append_assoc] at hp'
      exact hp'.trans hp
    -- a quote that could be escaped by the one before it is none
    have hescaped : endsInEscape before = true := by
      refine (h before hpair).resolve_right ?_
      rw [endsInEscape_concat]
      exact Bool.false_ne_true
    rw [double_quoteScan_concat_of_endsInEscape hescaped,
      hquotation before hpair hescaped] at hdouble
    contradiction

/-- Quotations of both kinds, with escaped quotes in them and behind them. -/
theorem unclosedQuote_iff_endsInQuote_iff_mixed :
    let t : Text := "a\\\"\" 'b\\'\"' \"c\\\" \\\\\" \"d".toList
    t.NoBarePair ∧ t.NoPairInQuotation ∧
      ((Words.ofLine t none).status = .unclosedQuote ↔ endsInQuote .both t = true) := by
  intro t
  have hpair : t.NoBarePair := by decide
  have hquotation : t.NoPairInQuotation := by decide
  exact ⟨hpair, hquotation,
    (unclosedQuote_iff_endsInQuote_iff hpair).mpr hquotation t List.prefix_rfl⟩

/-- An escaped double quote at the end of a quotation: the quotation is closed, and yet the scan for
words takes the quote that closes it for the start of a verbatim part. -/
theorem unclosedQuote_of_escaped_quote_at_end :
    let t : Text := "\"\\\"\"".toList
    t.NoBarePair ∧ (Words.ofLine t none).status = .unclosedQuote ∧
      endsInQuote .both t = false := by
  decide

end Text

end LineEditor
