import LineEditor.Text.Escaped
import LineEditor.Text.Words
import Mathlib.Data.List.Chain

/-!
# Words that are written on a line

There are four ways to write a word so that a line gives it back, and they may stand on one line in
any order, with as many spaces between them as one likes. Bare words have their spaces escaped. The
two kinds of quotation hold all but their own quote character and backslashes. A verbatim part holds
backslashes as well, and double quotes wherever two of them do not come together.

The scan for words is followed over what is written. What counts of its state are the words found so
far, the word being built and the quotation; the character before matters at double quotes only.

## Main definitions

* `QuoteStyle`, `QuoteStyle.Admits`, `QuoteStyle.write` — the ways to write a word, and the words
  that can be written so.
* `WrittenWord` is a word in a style that admits it, and `WrittenWord.spaced` writes several words.
* `WordScan.At` is what counts of the state of a scan.

## Main results

* `WordScan.ends_text` — a written word is found by the scan.
* `Words.ofLine_spaced` — a line gives back the words that were written on it.
-/

namespace LineEditor

/-- The ways to write a word. -/
inductive QuoteStyle
  | bare
  | single
  | double
  | verbatim
  deriving DecidableEq, Repr

namespace QuoteStyle

/-- The words that can be written in a style. -/
def Admits : QuoteStyle → Text → Prop
  | bare, w => w ≠ [] ∧ '\'' ∉ w ∧ '"' ∉ w ∧ '\\' ∉ w
  | single, w => w ≠ [] ∧ '\'' ∉ w ∧ '\\' ∉ w
  | double, w => w ≠ [] ∧ '"' ∉ w ∧ '\\' ∉ w
  | verbatim, w =>
    w ≠ [] ∧ w.head? ≠ some '"' ∧ w.getLast? ≠ some '"' ∧ w.IsChain fun a b => ¬(a = '"' ∧ b = '"')

instance : (style : QuoteStyle) → (w : Text) → Decidable (style.Admits w)
  | bare, _ => inferInstanceAs (Decidable (_ ∧ _))
  | single, _ => inferInstanceAs (Decidable (_ ∧ _))
  | double, _ => inferInstanceAs (Decidable (_ ∧ _))
  | verbatim, _ => inferInstanceAs (Decidable (_ ∧ _))

/-- How a word is written in a style. -/
def write : QuoteStyle → Text → Text
  | bare, w => Text.escapeSpaces w
  | single, w => ['\''] ++ w ++ ['\'']
  | double, w => ['"'] ++ w ++ ['"']
  | verbatim, w => ['"', '"'] ++ w ++ ['"', '"']

end QuoteStyle

/-- A word in a style that admits it. -/
structure WrittenWord where
  style : QuoteStyle
  word : Text
  admitted : style.Admits word

namespace WrittenWord

/-- What is written for the word. -/
def text (w : WrittenWord) : Text :=
  w.style.write w.word

/-- The words one after the other, each with the number of spaces behind it. -/
def spaced (words : List (WrittenWord × Nat)) : Text :=
  words.flatMap fun w => w.1.text ++ List.replicate w.2 ' '

end WrittenWord

namespace WordScan

/-- What counts of the state of a scan where nothing is escaped: the words found so far, the word
being built and the quotation. -/
structure At (s : WordScan) (words : List Text) (word : Text) (quoting : Quoting) : Prop where
  words : s.words = words
  word : s.word = word
  escaped : s.escaped = false
  quoting : s.quoting = quoting

/-- The scan is outside of quotations, and the words are found once the word being built is closed,
if there is one. -/
def Ends (s : WordScan) (words : List Text) : Prop :=
  s.At words [] .bare ∨ ∃ before word, words = before ++ [word] ∧ word ≠ [] ∧ s.At before word .bare

variable {s : WordScan} {words : List Text} {word w : Text} {quoting : Quoting} {c : Char}

theorem close_of_word_eq_nil (h : s.word = []) : s.close = s := by
  rw [close, h]
  rfl

theorem close_of_word_ne_nil (h : s.word ≠ []) : s.close = s.flush := by
  rw [close, List.isEmpty_eq_false_iff.mpr h]
  rfl

/-- The character before is of no account. -/
theorem At.note (h : s.At words word quoting) (prev : Option Char) :
    ({ s with prev } : WordScan).At words word quoting :=
  ⟨h.words, h.word, h.escaped, h.quoting⟩

theorem At.put (h : s.At words word quoting) (c : Char) :
    (s.put c).At words (word ++ [c]) quoting :=
  ⟨h.words, congrArg (· ++ [c]) h.word, h.escaped, h.quoting⟩

theorem At.putEscaped (h : s.At words word quoting) (c : Char) :
    (s.putEscaped c).At words (word ++ [c]) quoting :=
  ⟨h.words, congrArg (· ++ [c]) h.word, rfl, h.quoting⟩

theorem At.flush (h : s.At words word quoting) : s.flush.At (words ++ [word]) [] quoting := by
  refine ⟨?_, rfl, h.escaped, h.quoting⟩
  rw [← h.words, ← h.word]
  rfl

theorem At.close (h : s.At words word quoting) (hne : word ≠ []) :
    s.close.At (words ++ [word]) [] quoting := by
  rw [close_of_word_ne_nil (h.word ▸ hne)]
  exact h.flush

theorem At.unquoted (h : s.At words word quoting) :
    ({ s with quoting := .bare } : WordScan).At words word .bare :=
  ⟨h.words, h.word, h.escaped, rfl⟩

/-! ### One character -/

theorem At.step_other (h : s.At words word quoting) (hspace : c ≠ ' ') (hbackslash : c ≠ '\\')
    (hsingle : c ≠ '\'') (hdouble : c ≠ '"') : (s.step c).At words (word ++ [c]) quoting := by
  simp only [step, hspace, hbackslash, hsingle, hdouble, if_false, onOther, h.escaped]
  exact (h.put c).note _

/-- A space within a quotation is part of the word. -/
theorem At.step_space (h : s.At words word quoting) (hquotation : quoting ≠ .bare) :
    (s.step ' ').At words (word ++ [' ']) quoting := by
  have hnot : s.quoting ≠ .bare := h.quoting ▸ hquotation
  simp only [step, onSpace, h.escaped, hnot, if_false, Bool.false_eq_true, if_true]
  exact (h.put ' ').note _

/-- A bare space closes the word being built. -/
theorem Ends.step_space (h : s.Ends words) : (s.step ' ').At words [] .bare := by
  have hstep (hescaped : s.escaped = false) (hquoting : s.quoting = .bare) :
      s.step ' ' = { s.close with prev := some ' ' } := by
    simp [step, onSpace, hescaped, hquoting]
  rcases h with h | ⟨before, word, rfl, hne, h⟩
  · rw [hstep h.escaped h.quoting, close_of_word_eq_nil h.word]
    exact h.note _
  · rw [hstep h.escaped h.quoting]
    exact (h.close hne).note _

/-- A space is part of a bare word behind a backslash. -/
theorem At.step_escaped_space (h : s.At words word .bare) :
    ((s.step '\\').step ' ').At words (word ++ [' ']) .bare := by
  have hstep : s.step '\\' = { s with escaped := true, prev := some '\\' } := by
    simp [step, onBackslash, h.escaped, h.quoting]
  rw [hstep]
  exact ⟨h.words, congrArg (· ++ [' ']) h.word, rfl, h.quoting⟩

/-! ### Single quotations -/

theorem At.open_single (h : s.At words word .bare) : (s.step '\'').At words word .single := by
  have hstep : s.step '\'' = { s with quoting := .single, prev := some '\'' } := by
    simp [step, onSingleQuote, h.escaped, h.quoting]
  rw [hstep]
  exact ⟨h.words, h.word, h.escaped, rfl⟩

theorem At.close_single (h : s.At words word .single) (hne : word ≠ []) :
    (s.step '\'').At (words ++ [word]) [] .bare := by
  have hstep : s.step '\'' = { { s.close with quoting := .bare } with prev := some '\'' } := by
    simp [step, onSingleQuote, h.escaped, h.quoting]
  rw [hstep]
  exact (h.close hne).unquoted.note _

theorem At.step_single (h : s.At words word .single) (hsingle : c ≠ '\'') (hbackslash : c ≠ '\\') :
    (s.step c).At words (word ++ [c]) .single := by
  by_cases hspace : c = ' '
  · rw [hspace]
    exact h.step_space Quoting.noConfusion
  · by_cases hdouble : c = '"'
    · have hstep : s.step '"' = { s.put '"' with prev := some '"' } := by
        simp [step, onDoubleQuote, h.escaped, h.quoting]
      rw [hdouble, hstep]
      exact (h.put '"').note _
    · exact h.step_other hspace hbackslash hsingle hdouble

/-! ### Double quotations -/

theorem At.open_double (h : s.At words word .bare) : (s.step '"').At words word .double := by
  have hstep : s.step '"' = { s with quoting := .double, prev := some '"' } := by
    simp [step, onDoubleQuote, h.escaped, h.quoting]
  rw [hstep]
  exact ⟨h.words, h.word, h.escaped, rfl⟩

theorem At.close_double (h : s.At words word .double) (hne : word ≠ [])
    (hprev : s.prev ≠ some '"') : (s.step '"').At (words ++ [word]) [] .bare := by
  have hstep : s.step '"' = { { s.close with quoting := .bare } with prev := some '"' } := by
    simp [step, onDoubleQuote, h.escaped, h.quoting, hprev]
  rw [hstep]
  exact (h.close hne).unquoted.note _

theorem At.step_double (h : s.At words word .double) (hdouble : c ≠ '"') (hbackslash : c ≠ '\\') :
    (s.step c).At words (word ++ [c]) .double := by
  by_cases hspace : c = ' '
  · rw [hspace]
    exact h.step_space Quoting.noConfusion
  · by_cases hsingle : c = '\''
    · have hstep : s.step '\'' = { s.put '\'' with prev := some '\'' } := by
        simp [step, onSingleQuote, h.escaped, h.quoting]
      rw [hsingle, hstep]
      exact (h.put '\'').note _
    · exact h.step_other hspace hbackslash hsingle hdouble

/-! ### Verbatim parts -/

/-- A double quote directly behind the one that opened a quotation starts a verbatim part. -/
theorem At.open_verbatim (h : s.At words word .double) (hprev : s.prev = some '"') :
    (s.step '"').At words word .verbatim := by
  have hstep : s.step '"' = { s with quoting := .verbatim, prev := some '"' } := by
    simp [step, onDoubleQuote, h.escaped, h.quoting, hprev]
  rw [hstep]
  exact ⟨h.words, h.word, h.escaped, rfl⟩

/-- A verbatim part takes every character but a double quote directly behind another one. -/
theorem At.step_verbatim (h : s.At words word .verbatim)
    (hpair : ¬(s.prev = some '"' ∧ c = '"')) : (s.step c).At words (word ++ [c]) .verbatim := by
  by_cases hspace : c = ' '
  · rw [hspace]
    exact h.step_space Quoting.noConfusion
  · by_cases hbackslash : c = '\\'
    · have hstep : s.step '\\' = { s.putEscaped '\\' with prev := some '\\' } := by
        simp [step, onBackslash, h.quoting]
      rw [hbackslash, hstep]
      exact (h.putEscaped '\\').note _
    · by_cases hsingle : c = '\''
      · have hstep : s.step '\'' = { s.putEscaped '\'' with prev := some '\'' } := by
          simp [step, onSingleQuote, h.escaped, h.quoting]
        rw [hsingle, hstep]
        exact (h.putEscaped '\'').note _
      · by_cases hdouble : c = '"'
        · have hprev : s.prev ≠ some '"' := fun hprev => hpair ⟨hprev, hdouble⟩
          have hstep : s.step '"' = { s.putEscaped '"' with prev := some '"' } := by
            simp [step, onDoubleQuote, h.escaped, h.quoting, hprev]
          rw [hdouble, hstep]
          exact (h.putEscaped '"').note _
        · exact h.step_other hspace hbackslash hsingle hdouble

/-- The second one of two double quotes ends a verbatim part, which the first one is no part of. -/
theorem At.close_verbatim (h : s.At words (word ++ ['"']) .verbatim) (hprev : s.prev = some '"') :
    (s.step '"').At (words ++ [word]) [] .bare := by
  have hstep : s.step '"' =
      { { { s with word := s.word.dropLast }.flush with quoting := .bare } with
        prev := some '"' } := by
    simp [step, onDoubleQuote, h.escaped, h.quoting, hprev]
  have hdrop : ({ s with word := s.word.dropLast } : WordScan).At words word .verbatim := by
    refine ⟨h.words, ?_, h.escaped, h.quoting⟩
    change s.word.dropLast = word
    rw [h.word, List.dropLast_concat]
  rw [hstep]
  exact hdrop.flush.unquoted.note _

/-! ### What is written for a word -/

theorem At.escapeSpaces (h : s.At words word .bare) (hsingle : '\'' ∉ w) (hdouble : '"' ∉ w)
    (hbackslash : '\\' ∉ w) : ((Text.escapeSpaces w).foldl step s).At words (word ++ w) .bare := by
  induction w generalizing s word with
  | nil => simpa [Text.escapeSpaces] using h
  | cons c w ih =>
    simp only [List.mem_cons, not_or] at hsingle hdouble hbackslash
    rw [List.append_cons]
    by_cases hspace : c = ' '
    · have hwritten : Text.escapeSpaces (c :: w) = '\\' :: ' ' :: Text.escapeSpaces w := by
        simp [Text.escapeSpaces, hspace]
      rw [hwritten, hspace]
      exact ih h.step_escaped_space hsingle.2 hdouble.2 hbackslash.2
    · have hwritten : Text.escapeSpaces (c :: w) = c :: Text.escapeSpaces w := by
        simp [Text.escapeSpaces, hspace]
      rw [hwritten]
      have hnext := h.step_other hspace (Ne.symm hbackslash.1) (Ne.symm hsingle.1)
        (Ne.symm hdouble.1)
      exact ih hnext hsingle.2 hdouble.2 hbackslash.2

/-- A text whose characters are all taken for text in a quotation is taken as a whole. -/
theorem At.foldl (h : s.At words word quoting)
    (htaken : ∀ (s : WordScan) (word : Text), s.At words word quoting →
      ∀ c ∈ w, (s.step c).At words (word ++ [c]) quoting) :
    (w.foldl step s).At words (word ++ w) quoting := by
  induction w generalizing s word with
  | nil => simpa using h
  | cons c w ih =>
    rw [List.append_cons]
    exact ih (htaken s word h c List.mem_cons_self)
      fun s word h d hd => htaken s word h d (List.mem_cons_of_mem c hd)

theorem At.single (h : s.At words word .single) (hsingle : '\'' ∉ w) (hbackslash : '\\' ∉ w) :
    (w.foldl step s).At words (word ++ w) .single :=
  h.foldl fun _ _ h _ hc =>
    h.step_single (ne_of_mem_of_not_mem hc hsingle) (ne_of_mem_of_not_mem hc hbackslash)

theorem At.double (h : s.At words word .double) (hdouble : '"' ∉ w) (hbackslash : '\\' ∉ w) :
    (w.foldl step s).At words (word ++ w) .double :=
  h.foldl fun _ _ h _ hc =>
    h.step_double (ne_of_mem_of_not_mem hc hdouble) (ne_of_mem_of_not_mem hc hbackslash)

/-- A verbatim part takes a text without two double quotes in a row, the character before the text
counted. -/
theorem At.verbatim {p : Char} (h : s.At words word .verbatim) (hprev : s.prev = some p)
    (hchain : (p :: w).IsChain fun a b => ¬(a = '"' ∧ b = '"')) :
    (w.foldl step s).At words (word ++ w) .verbatim := by
  induction w generalizing s word p with
  | nil => simpa using h
  | cons c w ih =>
    -- the character that is taken is the one before for the rest of the text
    obtain ⟨hpair, hrest⟩ := List.isChain_cons_cons.mp hchain
    rw [List.append_cons]
    have hnot : ¬(s.prev = some '"' ∧ c = '"') := by
      rw [hprev, Option.some_inj]
      exact hpair
    exact ih (h.step_verbatim hnot) rfl hrest

/-- The character before is the last one that was scanned. -/
theorem prev_foldl_step (hne : w ≠ []) : (w.foldl step s).prev = w.getLast? := by
  rcases List.eq_nil_or_concat w with rfl | ⟨start, c, rfl⟩
  · exact absurd rfl hne
  · rw [List.concat_eq_append, List.foldl_concat, List.getLast?_concat]
    rfl

theorem ends_single (h : s.At words [] .bare) (hw : QuoteStyle.single.Admits w) :
    ((QuoteStyle.single.write w).foldl step s).At (words ++ [w]) [] .bare := by
  obtain ⟨hne, hsingle, hbackslash⟩ := hw
  simp only [QuoteStyle.write, List.cons_append, List.nil_append, List.foldl_cons,
    List.foldl_concat]
  exact (h.open_single.single hsingle hbackslash).close_single hne

theorem ends_double (h : s.At words [] .bare) (hw : QuoteStyle.double.Admits w) :
    ((QuoteStyle.double.write w).foldl step s).At (words ++ [w]) [] .bare := by
  obtain ⟨hne, hdouble, hbackslash⟩ := hw
  simp only [QuoteStyle.write, List.cons_append, List.nil_append, List.foldl_cons,
    List.foldl_concat]
  refine (h.open_double.double hdouble hbackslash).close_double hne ?_
  -- the quote that opened does not stand directly before the one that closes
  rw [prev_foldl_step hne]
  exact fun hlast => hdouble (List.mem_of_getLast? hlast)

theorem ends_verbatim (h : s.At words [] .bare) (hw : QuoteStyle.verbatim.Admits w) :
    ((QuoteStyle.verbatim.write w).foldl step s).At (words ++ [w]) [] .bare := by
  obtain ⟨hne, hhead, hlast, hchain⟩ := hw
  have hopened : ((s.step '"').step '"').At words [] .verbatim := h.open_double.open_verbatim rfl
  have hbehind : ('"' :: w).IsChain fun a b => ¬(a = '"' ∧ b = '"') := by
    refine List.isChain_cons.mpr ⟨fun c hc hpair => hhead ?_, hchain⟩
    rw [hc, hpair.2]
  have htaken := hopened.verbatim rfl hbehind
  -- the first double quote behind the word is taken for a part of it
  have hfirst : ((w.foldl step ((s.step '"').step '"')).step '"').At words (w ++ ['"'])
      .verbatim := by
    refine htaken.step_verbatim fun hpair => hlast ?_
    rw [← prev_foldl_step hne]
    exact hpair.1
  simp only [QuoteStyle.write, List.cons_append, List.nil_append, List.foldl_cons,
    List.foldl_append, List.foldl_nil]
  exact hfirst.close_verbatim rfl

/-- A written word is found by the scan. -/
theorem ends_text (h : s.At words [] .bare) (w : WrittenWord) :
    (w.text.foldl step s).Ends (words ++ [w.word]) := by
  obtain ⟨style, word, hw⟩ := w
  cases style with
  | bare => exact .inr ⟨words, word, rfl, hw.1, h.escapeSpaces hw.2.1 hw.2.2.1 hw.2.2.2⟩
  | single => exact .inl (ends_single h hw)
  | double => exact .inl (ends_double h hw)
  | verbatim => exact .inl (ends_verbatim h hw)

/-! ### What is written on a line -/

/-- Spaces outside of quotations find no further word. -/
theorem Ends.spaces (h : s.Ends words) (n : Nat) :
    ((List.replicate n ' ').foldl step s).Ends words := by
  induction n generalizing s with
  | zero => exact h
  | succ n ih => exact ih (.inl h.step_space)

/-- Behind at least one space another word can be written. -/
theorem Ends.gap (h : s.Ends words) {n : Nat} (hn : 1 ≤ n) :
    ((List.replicate n ' ').foldl step s).At words [] .bare := by
  obtain ⟨n, rfl⟩ := Nat.exists_eq_add_of_le' hn
  rw [List.replicate_succ', List.foldl_concat]
  exact (h.spaces n).step_space

/-- The scan finds the words that are written where one may stand, in their order. -/
theorem ends_spaced (h : s.At words [] .bare) {written : List (WrittenWord × Nat)}
    (hgap : ∀ w ∈ written.dropLast, 1 ≤ w.2) :
    ((WrittenWord.spaced written).foldl step s).Ends (words ++ written.map (·.1.word)) := by
  induction written generalizing s words with
  | nil => exact .inl (by simpa [WrittenWord.spaced] using h)
  | cons w rest ih =>
    have hword : (w.1.text.foldl step s).Ends (words ++ [w.1.word]) := ends_text h w.1
    have hsplit : WrittenWord.spaced (w :: rest) =
        w.1.text ++ (List.replicate w.2 ' ' ++ WrittenWord.spaced rest) := by
      simp [WrittenWord.spaced]
    rw [hsplit, List.foldl_append, List.foldl_append, List.map_cons, List.append_cons]
    cases rest with
    | nil =>
      -- behind the last word there need be no space
      simpa [WrittenWord.spaced] using hword.spaces w.2
    | cons next rest =>
      rw [List.dropLast_cons_cons] at hgap
      exact ih (hword.gap (hgap w List.mem_cons_self))
        fun v hv => hgap v (List.mem_cons_of_mem _ hv)

theorem Ends.finish_eq (h : s.Ends words) : s.finish = words := by
  rcases h with h | ⟨before, word, rfl, hne, h⟩
  · rw [finish, h.escaped, if_neg Bool.false_ne_true, close_of_word_eq_nil h.word, h.words]
  · rw [finish, h.escaped, if_neg Bool.false_ne_true, (h.close hne).words]

theorem Ends.quoting_eq (h : s.Ends words) : s.quoting = .bare := by
  rcases h with h | ⟨_, _, _, _, h⟩ <;> exact h.quoting

end WordScan

/-- A line gives back the words that are written on it, whatever the style of each one is, when at
least one space stands between two of them. -/
theorem Words.ofLine_spaced (lead : Nat) (written : List (WrittenWord × Nat))
    (hgap : ∀ w ∈ written.dropLast, 1 ≤ w.2) :
    let line := List.replicate lead ' ' ++ WrittenWord.spaced written
    (ofLine line none).words = written.map (·.1.word) ∧ (ofLine line none).status = .complete := by
  intro line
  have hstart : ({} : WordScan).At [] [] .bare := ⟨rfl, rfl, rfl, rfl⟩
  have hlead : ((List.replicate lead ' ').foldl WordScan.step {}).At [] [] .bare := by
    cases lead with
    | zero => exact hstart
    | succ n => exact WordScan.Ends.gap (.inl hstart) (Nat.le_add_left 1 n)
  have hends : (WordScan.ofText line).Ends (written.map (·.1.word)) := by
    rw [WordScan.ofText, List.foldl_append]
    exact WordScan.ends_spaced hlead hgap
  refine ⟨hends.finish_eq, ?_⟩
  rw [ofLine, hends.quoting_eq]
  rfl

/-- A word in each style: `a b`, `say "x"`, `it's` and `C:\d "q" `, with a space in front of them
and two behind them. -/
theorem Words.ofLine_spaced_every_style :
    (ofLine " a\\ b 'say \"x\"'  \"it's\" \"\"C:\\d \"q\" \"\"  ".toList none).words =
        ["a b".toList, "say \"x\"".toList, "it's".toList, "C:\\d \"q\" ".toList] ∧
      (ofLine " a\\ b 'say \"x\"'  \"it's\" \"\"C:\\d \"q\" \"\"  ".toList none).status =
        .complete :=
  ofLine_spaced 1
    [(⟨.bare, "a b".toList, by decide⟩, 1), (⟨.single, "say \"x\"".toList, by decide⟩, 2),
      (⟨.double, "it's".toList, by decide⟩, 1), (⟨.verbatim, "C:\\d \"q\" ".toList, by decide⟩, 2)]
    (by decide)

end LineEditor
