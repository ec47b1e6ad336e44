import LineEditor.Proofs.WordBreaks

/-!
# The word under a cursor

Where a cursor stands among the words of a line is told from the text before it alone: it is at the
word that is being built there, behind as many characters as the word has so far. What this word
becomes is decided by the text behind the cursor.

There are two ways in which the place turns out to be no place in the word. A verbatim part that
ends takes the last character out of the word again, so that a cursor in front of the quotes that
end it stands one character behind the word. And where no word is being built, because a quote has
just ended one, the place is in whatever word comes next.

## Main definitions

* `WordScan.quotesToEnd` is the number of double quotes that end a verbatim part at once.
* `Text.EndsInBareQuote` — a text ends in a quote that is not escaped.

## Main results

* `WordScan.getElem?_finish_foldl` — what becomes of the word that is being built.
* `Words.offset_le_length_iff` — for which places the cursor stands in the word or behind it.
* `Words.offset_le_length_add_one` — elsewhere it is one character too far.
* `Words.selected_before_space` — the word under a cursor in front of a space.
* `Words.selected_before_space_eq_iff` — for which texts it does not depend on what follows.
-/

namespace LineEditor

namespace WordScan

open Text

variable {s s' : WordScan} {c : Char} {t w : Text} {n : Nat}

/-! ### What becomes of the word that is being built -/

/-- The number of double quotes that, directly behind the text, end a verbatim part without being
text: those that are missing to open a quotation, to start its verbatim part, and to end this. -/
def quotesToEnd (s : WordScan) : Option Nat :=
  if s.escaped then none
  else
    match s.quoting with
    | .bare => some 3
    | .single => none
    | .double => if s.prev = some '"' then some 2 else none
    | .verbatim => if s.prev = some '"' then some 1 else none

theorem quotesToEnd_eq_some_iff :
    s.quotesToEnd = some n ↔ s.escaped = false ∧
      (s.quoting = .bare ∧ n = 3 ∨ s.quoting = .double ∧ s.prev = some '"' ∧ n = 2 ∨
        s.quoting = .verbatim ∧ s.prev = some '"' ∧ n = 1) := by
  rw [quotesToEnd]
  cases s.quoting <;> simp [@eq_comm _ n]

/-- A word that ends with the line has grown, if at all. -/
theorem getElem?_finish (h : s.finish[s.words.length]? = some w) : s.word <+: w := by
  rcases s.finish_cases with ⟨hempty, -, -⟩ | ⟨w', -, hlonger, hfinish⟩
  · exact hempty ▸ List.nil_prefix
  · rw [hfinish, List.getElem?_concat_length] at h
    exact Option.some.inj h ▸ hlonger

theorem getElem?_of_words_eq_concat (h : s'.words = s.words ++ [w]) (t : Text) :
    (t.foldl step s').finish[s.words.length]? = some w := by
  obtain ⟨more, hmore⟩ := s'.words_prefix_finish_foldl t
  rw [← hmore, h]
  simp

/-- The word that is being built becomes a word that begins with it, or else the double quotes that
follow take out its last character. -/
theorem getElem?_finish_foldl (s : WordScan) (t : Text)
    (h : (t.foldl step s).finish[s.words.length]? = some w) :
    s.word <+: w ∨
      w = s.word.dropLast ∧ ∃ n, s.quotesToEnd = some n ∧ List.replicate n '"' <+: t := by
  induction t generalizing s with
  | nil => exact .inl (getElem?_finish h)
  | cons c t ih =>
    rw [List.foldl_cons] at h
    have hdoes := s.charDoes_step c
    have ih := ih (s.step c)
    generalize s.step c = s' at hdoes h ih
    cases hdoes with
    | text more hne hwords hword =>
      rcases ih (hwords ▸ h) with hlonger | ⟨rfl, -⟩
      · exact .inl ((hword ▸ List.prefix_append _ _).trans hlonger)
      · -- what is taken out is not of the word before the character
        rw [hword, List.dropLast_append_of_ne_nil hne]
        exact .inl (List.prefix_append _ _)
    | passes hmark hempty => exact .inl (hempty ▸ List.nil_prefix)
    | waits hescaped =>
      rcases ih h with hlonger | ⟨-, n, hn, -⟩
      · exact .inl hlonger
      · contradiction
    | opens hescaped hbare hquoting =>
      rcases ih h with hlonger | ⟨hw, n, hn, hquotes⟩
      · exact .inl hlonger
      · rcases hquoting with ⟨rfl, rfl⟩ | ⟨rfl, rfl⟩
        · simp [quotesToEnd, hescaped] at hn
        · obtain rfl : 2 = n := by simpa [quotesToEnd, hescaped] using hn
          exact .inr ⟨hw, 3, quotesToEnd_eq_some_iff.mpr ⟨hescaped, .inl ⟨hbare, rfl⟩⟩,
            (List.prefix_cons_inj '"').mpr hquotes⟩
    | startsVerbatim hstarts =>
      rcases ih h with hlonger | ⟨hw, n, hn, hquotes⟩
      · exact .inl hlonger
      · obtain ⟨rfl, hescaped, hquoting, hprev⟩ := hstarts
        obtain rfl : 1 = n := by simpa [quotesToEnd, hescaped] using hn
        exact .inr ⟨hw, 2,
          quotesToEnd_eq_some_iff.mpr ⟨hescaped, .inr (.inl ⟨hquoting, hprev, rfl⟩)⟩,
          (List.prefix_cons_inj '"').mpr hquotes⟩
    | ends _ _ hwords =>
      rw [getElem?_of_words_eq_concat hwords] at h
      exact .inl (Option.some.inj h ▸ List.prefix_rfl)
    | endsVerbatim hends hwords =>
      rw [getElem?_of_words_eq_concat hwords] at h
      obtain ⟨rfl, hescaped, hquoting, hprev⟩ := hends
      exact .inr ⟨(Option.some.inj h).symm, 1,
        quotesToEnd_eq_some_iff.mpr ⟨hescaped, .inr (.inr ⟨hquoting, hprev, rfl⟩)⟩,
        (List.prefix_cons_inj '"').mpr List.nil_prefix⟩

/-- The first one of the double quotes that end a verbatim part either ends it or leaves words and
word as they are. -/
theorem step_quote_of_quotesToEnd (h : s.quotesToEnd = some n) :
    n = 1 ∧ (s.step '"').words = s.words ++ [s.word.dropLast] ∨
      ∃ m, n = m + 1 ∧ (s.step '"').quotesToEnd = some m ∧ (s.step '"').words = s.words ∧
        (s.step '"').word = s.word := by
  have hstep : s.step '"' = { s.onDoubleQuote with prev := some '"' } := rfl
  obtain ⟨hescaped, hbare | hdouble | hverbatim⟩ := quotesToEnd_eq_some_iff.mp h
  · obtain ⟨hquoting, rfl⟩ := hbare
    exact .inr ⟨2, rfl, by simp [hstep, onDoubleQuote, quotesToEnd, hescaped, hquoting]⟩
  · obtain ⟨hquoting, hprev, rfl⟩ := hdouble
    exact .inr ⟨1, rfl, by simp [hstep, onDoubleQuote, quotesToEnd, hescaped, hquoting, hprev]⟩
  · obtain ⟨hquoting, hprev, rfl⟩ := hverbatim
    exact .inl ⟨rfl, by simp [hstep, onDoubleQuote, hescaped, hquoting, hprev, flush]⟩

theorem not_quotes_prefix_nil (h : s.quotesToEnd = some n) : ¬List.replicate n '"' <+: [] := by
  rw [List.prefix_nil, List.replicate_eq_nil_iff]
  rintro rfl
  rcases step_quote_of_quotesToEnd h with ⟨h, -⟩ | ⟨m, h, -⟩ <;> contradiction

theorem getElem?_finish_of_quotesToEnd (h : s.quotesToEnd = some n)
    (hquotes : List.replicate n '"' <+: t) :
    (t.foldl step s).finish[s.words.length]? = some s.word.dropLast := by
  induction n generalizing s t with
  | zero => exact absurd List.prefix_rfl (not_quotes_prefix_nil h)
  | succ n ih =>
    obtain ⟨rest, rfl⟩ := hquotes
    rw [List.replicate_succ, List.cons_append, List.foldl_cons]
    rcases step_quote_of_quotesToEnd h with ⟨-, hwords⟩ | ⟨m, hm, hnext, hwords, hword⟩
    · exact getElem?_of_words_eq_concat hwords _
    · obtain rfl := Nat.succ.inj hm
      have hrest := ih hnext (List.prefix_append (List.replicate n '"') rest)
      rwa [hwords, hword] at hrest

/-- The word that is being built becomes a longer one, or stays as long as it is, unless double
quotes follow that take out a character of it. -/
theorem length_le_of_getElem?_iff (s : WordScan) (t : Text) :
    (∀ w, (t.foldl step s).finish[s.words.length]? = some w → s.word.length ≤ w.length) ↔
      ∀ n, s.word ≠ [] → s.quotesToEnd = some n → ¬List.replicate n '"' <+: t := by
  constructor
  · intro hlength n hne hn hquotes
    have hdropped := hlength _ (getElem?_finish_of_quotesToEnd hn hquotes)
    have hpos := List.length_pos_iff.mpr hne
    rw [List.length_dropLast] at hdropped
    omega
  · intro hnone w hw
    rcases getElem?_finish_foldl s t hw with hlonger | ⟨rfl, n, hn, hquotes⟩
    · exact hlonger.length_le
    · by_cases hempty : s.word = []
      · rw [hempty]
        exact Nat.zero_le _
      · exact absurd hquotes (hnone n hempty hn)

/-- At the end of a line the cursor is not farther in a word than the word is long. -/
theorem offset_le_length_of_positionAtEnd {place : WordPosition}
    (hplace : s.positionAtEnd = some place) (hw : s.finish[place.index]? = some w) :
    place.offset ≤ w.length := by
  have hbuilt (hplace : some ⟨s.words.length, s.word.length⟩ = some place) :
      place.offset ≤ w.length := by
    obtain rfl := Option.some.inj hplace
    exact (getElem?_finish hw).length_le
  rw [positionAtEnd] at hplace
  split at hplace
  · split at hplace
    · next last hlast =>
      split at hplace
      · obtain rfl := Option.some.inj hplace
        obtain ⟨more, hmore⟩ := s.words_prefix_finish
        rw [List.getLast?_eq_getElem?] at hlast
        have hlength := (List.getElem?_eq_some_iff.mp hlast).1
        rw [← hmore, List.getElem?_append_left hlength, hlast] at hw
        exact (Option.some.inj hw ▸ Nat.le_refl _)
      · exact hbuilt hplace
    · exact hbuilt hplace
  · contradiction

/-! ### Whether a word is being built -/

theorem word_onSingleQuote_eq_nil (hescaped : s.escaped = false)
    (hbare : s.onSingleQuote.quoting = .bare) : s.onSingleQuote.word = [] := by
  rw [onSingleQuote, if_neg (Bool.eq_false_iff.mp hescaped)] at hbare ⊢
  cases hquoting : s.quoting with
  | bare => simp [hquoting] at hbare
  | single => exact s.word_close
  | double => simp [hquoting, put] at hbare
  | verbatim => simp [hquoting, putEscaped, put] at hbare

theorem word_onDoubleQuote_eq_nil (hescaped : s.escaped = false)
    (hbare : s.onDoubleQuote.quoting = .bare) : s.onDoubleQuote.word = [] := by
  rw [onDoubleQuote, if_neg (Bool.eq_false_iff.mp hescaped)] at hbare ⊢
  cases hquoting : s.quoting with
  | bare => simp [hquoting] at hbare
  | single => simp [hquoting, put] at hbare
  | double =>
    by_cases hprev : s.prev = some '"'
    · simp [hquoting, hprev] at hbare
    · simp only [if_neg hprev]
      exact s.word_close
  | verbatim =>
    by_cases hprev : s.prev = some '"'
    · simp only [if_pos hprev]
      rfl
    · simp [hquoting, hprev, putEscaped, put] at hbare

/-- A quote that is not escaped and that leads out of quotations, or stays outside, ends the word.
-/
theorem word_step_quote_eq_nil (hescaped : s.escaped = false) (hquote : c = '\'' ∨ c = '"')
    (hbare : (s.step c).quoting = .bare) : (s.step c).word = [] := by
  rcases hquote with rfl | rfl
  · exact word_onSingleQuote_eq_nil hescaped hbare
  · exact word_onDoubleQuote_eq_nil hescaped hbare

/-- A character that leaves no word being built, and nothing that waits, is a space or a quote, and
if it was in a verbatim part, it is behind a double quote. -/
theorem mark_of_word_step_eq_nil (hbare : (s.step c).quoting = .bare)
    (hescaped : (s.step c).escaped = false) (hword : (s.step c).word = []) :
    s.MeetsMark c ∨ s.EndsVerbatim c := by
  have hdoes := s.charDoes_step c
  generalize s.step c = s' at hdoes hbare hescaped hword
  cases hdoes with
  | text more hne _ hmore =>
    exact absurd (hmore.symm.trans hword) (List.append_ne_nil_of_right_ne_nil _ hne)
  | waits | startsVerbatim => contradiction
  | opens _ _ hquoting => rcases hquoting with ⟨rfl, -⟩ | ⟨rfl, -⟩ <;> contradiction
  | passes hmark | ends hmark => exact .inl hmark
  | endsVerbatim hends => exact .inr hends

end WordScan

namespace Text

open WordScan

variable {t p : Text} {c : Char}

/-- The text ends in a quote that is not escaped. -/
def EndsInBareQuote (t : Text) : Prop :=
  (t.getLast? = some '\'' ∨ t.getLast? = some '"') ∧ endsInEscape t.dropLast = false

instance (t : Text) : Decidable t.EndsInBareQuote :=
  inferInstanceAs (Decidable (_ ∧ _))

theorem endsInBareQuote_concat :
    (p ++ [c]).EndsInBareQuote ↔ (c = '\'' ∨ c = '"') ∧ p.endsInEscape = false := by
  rw [EndsInBareQuote, List.getLast?_concat, List.dropLast_concat, Option.some_inj, Option.some_inj]

/-- Where a text ends outside of quotations, and neither in a space nor in an escape, a word is
being built unless a quote has just ended it. -/
theorem word_ofText_eq_nil_iff (hbare : (ofText t).quoting = .bare)
    (hspace : t.getLast? ≠ some ' ') (hescape : t.endsInEscape = false) :
    (ofText t).word = [] ↔ t = [] ∨ t.EndsInBareQuote := by
  have hescaped := escaped_ofText_eq_false hescape
  rcases List.eq_nil_or_concat' t with rfl | ⟨p, c, rfl⟩
  · exact iff_of_true rfl (.inl rfl)
  have hne : p ++ [c] ≠ [] := List.append_ne_nil_of_right_ne_nil p (List.cons_ne_nil c [])
  rw [endsInBareQuote_concat, or_iff_right hne]
  rw [List.getLast?_concat] at hspace
  rw [ofText_concat] at hbare hescaped ⊢
  constructor
  · intro hword
    rcases mark_of_word_step_eq_nil hbare hescaped hword with ⟨hc, hquoting, hmark⟩ | hends
    · refine ⟨hmark.resolve_left fun heq => hspace (congrArg some heq), ?_⟩
      simpa [escaped_ofText, hquoting] using hc
    · obtain ⟨rfl, -, -, hprev⟩ := hends
      obtain ⟨before, rfl, -⟩ := exists_of_prev_ofText hprev
      exact ⟨.inr rfl, by simp [endsInEscape_concat]⟩
  · rintro ⟨hquote, hnot⟩
    exact word_step_quote_eq_nil (escaped_ofText_eq_false hnot) hquote hbare

end Text

namespace Words

open Text WordScan

variable {a b t : Text} {cursor : Nat}

/-! ### Places in words -/

theorem take_foldl_drop (t : Text) (cursor : Nat) :
    (t.drop cursor).foldl step (WordScan.ofText (t.take cursor)) = WordScan.ofText t := by
  rw [WordScan.ofText, ← List.foldl_append, List.take_append_drop]
  rfl

/-- The cursor stands in the word that it is at, or directly behind it, unless it touches the
beginning of a word and so many double quotes follow that they end a verbatim part at once. -/
theorem offset_le_length_iff (t : Text) (cursor : Nat) :
    (∀ place word, (ofLine t (some cursor)).position = some place →
      (ofLine t (some cursor)).words[place.index]? = some word → place.offset ≤ word.length) ↔
      ∀ n, (WordScan.ofText (t.take cursor)).touches = true →
        (WordScan.ofText (t.take cursor)).word ≠ [] →
          (WordScan.ofText (t.take cursor)).quotesToEnd = some n →
            ¬List.replicate n '"' <+: t.drop cursor := by
  have hposition : (ofLine t (some cursor)).position = positionAt t cursor := rfl
  have hscan := take_foldl_drop t cursor
  rw [hposition, words_ofLine, positionAt]
  split
  · rw [positionInside]
    split
    · next htouches =>
      rw [← hscan]
      constructor
      · intro h n _ hne
        exact (length_le_of_getElem?_iff _ _).mp (fun w hw => h _ w rfl hw) n hne
      · rintro h place w ⟨⟩ hw
        exact (length_le_of_getElem?_iff _ _).mpr (fun n => h n htouches) w hw
    · next htouches => exact ⟨fun _ n h => absurd h htouches, fun _ _ _ h => by contradiction⟩
  · next hinside =>
    rw [List.drop_eq_nil_of_le (Nat.le_of_not_lt hinside)]
    refine ⟨fun _ _ _ _ hn => not_quotes_prefix_nil hn, fun _ place w hplace hw => ?_⟩
    split at hplace
    · exact offset_le_length_of_positionAtEnd hplace hw
    · contradiction

/-- The cursor is never more than one character behind the word that it is at. -/
theorem offset_le_length_add_one {place : WordPosition} {word : Text}
    (hplace : (ofLine t (some cursor)).position = some place)
    (hword : (ofLine t (some cursor)).words[place.index]? = some word) :
    place.offset ≤ word.length + 1 := by
  change positionAt t cursor = some place at hplace
  rw [words_ofLine] at hword
  rw [positionAt] at hplace
  split at hplace
  · rw [positionInside] at hplace
    split at hplace
    · obtain rfl := Option.some.inj hplace
      rw [← take_foldl_drop t cursor] at hword
      rcases getElem?_finish_foldl _ _ hword with hlonger | ⟨rfl, -⟩
      · exact Nat.le_succ_of_le hlonger.length_le
      · rw [List.length_dropLast]
        exact Nat.le_add_of_sub_le (Nat.le_refl _)
    · contradiction
  · split at hplace
    · exact Nat.le_succ_of_le (offset_le_length_of_positionAtEnd hplace hword)
    · contradiction

/-- A cursor in front of the two quotes that end a verbatim part has the first quote behind it for
text, which is taken out again. -/
theorem offset_behind_word :
    let w := ofLine "\"\"ab\"\"".toList (some 5)
    w.position = some ⟨0, 3⟩ ∧ w.words = ["ab".toList] ∧
      ¬∀ place word, w.position = some place → w.words[place.index]? = some word →
        place.offset ≤ word.length := by
  refine ⟨by decide, by decide, fun h => ?_⟩
  have hle := h ⟨0, 3⟩ "ab".toList (by decide) (by decide)
  revert hle
  decide

/-! ### In front of a space -/

theorem touches_ofText (hspace : a.getLast? ≠ some ' ') : (WordScan.ofText a).touches = true := by
  have hprev : (WordScan.ofText a).prev ≠ some ' ' := by
    rcases List.eq_nil_or_concat' a with rfl | ⟨p, c, rfl⟩
    · exact nofun
    · rwa [prev_ofText_concat, ← List.getLast?_concat]
  rw [touches, bne_iff_ne.mpr hprev, Bool.true_or]

theorem position_before_space (hspace : a.getLast? ≠ some ' ') (b : Text) :
    (ofLine (a ++ ' ' :: b) (some a.length)).position =
      some ⟨(WordScan.ofText a).words.length, (WordScan.ofText a).word.length⟩ := by
  have hinside : a.length < (a ++ ' ' :: b).length := by simp
  rw [ofLine, Option.bind_some, positionAt, if_pos hinside, List.take_left, positionInside,
    if_pos (touches_ofText hspace)]

/-- In front of a separating space the cursor is at the word that the text before it ends in. Where
this has been ended already, it is at the first word behind the space. -/
theorem selected_before_space (hcomplete : (ofLine a none).status = .complete)
    (hspace : a.getLast? ≠ some ' ') (hescape : a.endsInEscape = false) (b : Text) :
    (ofLine (a ++ ' ' :: b) (some a.length)).selected =
      if (WordScan.ofText a).word = [] then (ofLine b none).words.headD []
      else (WordScan.ofText a).word := by
  have hescaped := escaped_ofText_eq_false hescape
  have hwords : (ofLine (a ++ ' ' :: b) (some a.length)).words =
      (WordScan.ofText a).close.words ++ (ofLine b none).words := by
    have happend := words_ofLine_append_space (t := b) hcomplete hescape
    rwa [words_ofLine a, finish_eq_of_escaped_eq hescaped] at happend
  rw [selected, position_before_space hspace, Option.bind_some, hwords]
  split
  · next hempty =>
    rw [close_of_word_eq_nil hempty, List.getElem?_append_right (Nat.le_refl _), Nat.sub_self,
      ← List.head?_eq_getElem?, List.headD_eq_head?_getD]
  · next hne =>
    rw [close_of_word_ne_nil hne, flush, List.append_assoc, List.singleton_append]
    simp

/-- Whether the word under a cursor in front of a separating space depends on what follows the
space: it does where there is nothing in front of it, or a quote that has ended the word. -/
theorem selected_before_space_eq_iff (hcomplete : (ofLine a none).status = .complete)
    (hspace : a.getLast? ≠ some ' ') (hescape : a.endsInEscape = false) :
    (∀ b b', (ofLine (a ++ ' ' :: b) (some a.length)).selected =
        (ofLine (a ++ ' ' :: b') (some a.length)).selected) ↔
      a ≠ [] ∧ ¬a.EndsInBareQuote := by
  have hselected := selected_before_space hcomplete hspace hescape
  have hempty := word_ofText_eq_nil_iff (status_ofLine_eq_complete_iff.mp hcomplete) hspace hescape
  rw [← not_or, ← hempty]
  constructor
  · intro hsame hword
    have hnil := hsame [] ['x']
    rw [hselected, hselected, if_pos hword, if_pos hword] at hnil
    exact absurd hnil (by decide)
  · intro hword b b'
    rw [hselected, hselected, if_neg hword, if_neg hword]

/-- A word that is ended by the space, behind one that a quote has ended. Its last character is a
quote that is escaped. -/
theorem selected_before_space_eq_iff_escaped_quote :
    let a : Text := "\"x y\" a\\ b\\\"".toList
    (ofLine a none).status = .complete ∧ a.getLast? ≠ some ' ' ∧ a.endsInEscape = false ∧
      ∀ b b', (ofLine (a ++ ' ' :: b) (some a.length)).selected =
        (ofLine (a ++ ' ' :: b') (some a.length)).selected := by
  intro a
  have hcomplete : (ofLine a none).status = .complete := by decide
  have hspace : a.getLast? ≠ some ' ' := by decide
  have hescape : a.endsInEscape = false := by decide
  refine ⟨hcomplete, hspace, hescape, ?_⟩
  exact (selected_before_space_eq_iff hcomplete hspace hescape).mpr ⟨by decide, by decide⟩

/-- A quotation in front of a space: with a word behind the space, this is the word under the
cursor. -/
theorem selected_behind_space :
    let a : Text := "\"bar\"".toList
    (ofLine a none).status = .complete ∧ a.getLast? ≠ some ' ' ∧ a.endsInEscape = false ∧
      (ofLine (a ++ ' ' :: []) (some a.length)).selected = [] ∧
      (ofLine (a ++ ' ' :: ['x']) (some a.length)).selected = ['x'] ∧
      ¬∀ b b', (ofLine (a ++ ' ' :: b) (some a.length)).selected =
        (ofLine (a ++ ' ' :: b') (some a.length)).selected := by
  intro a
  have hnothing : (ofLine (a ++ ' ' :: []) (some a.length)).selected = [] := by decide
  have hword : (ofLine (a ++ ' ' :: ['x']) (some a.length)).selected = ['x'] := by decide
  refine ⟨by decide, by decide, by decide, hnothing, hword, fun hsame => ?_⟩
  rw [hsame [] ['x'], hword] at hnothing
  contradiction

end Words

end LineEditor
