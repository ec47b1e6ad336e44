import LineEditor.Proofs.OpenQuote

/-!
# What the words of a line keep

Spaces, quotes and backslashes give a line its structure, and the rest of it is what the words are
made of. A scan that moves characters from the line to the words should lose none of the rest,
however quotations, escapes and verbatim parts are nested.

There is one place where a character is taken out of a word again. Verbatim text ends at a pair of
double quotes, whose first half was taken for text when it came. But the double quote that starts a
verbatim part may be mistaken for such a first half, and then it is the character in front of the
quotation that is taken out.

## Main definitions

* `Text.content` is a text without spaces, quotes and backslashes.
* `WordScan.held` is what a scan has kept of the content of a text.
* `WordScan.QuoteDoes` is what a double quote may do to a scan.
* `WordScan.Loses` — a character makes the scan take an ordinary one out of the word.

## Main results

* `WordScan.held_step` and `WordScan.held_step_of_loses` — what one character does to what is kept.
* `WordScan.held_ofText_eq_iff` — a scan has kept everything exactly if it has never lost anything.
* `WordScan.loses_ofText_iff` — it loses something at the third of three double quotes that directly
  follow an ordinary character outside of quotations.
* `Text.content_words_eq_iff` — for which lines the words keep the content of the line.
-/

namespace LineEditor

namespace Text

/-- The character is no space, no quote and no backslash. -/
def isOrdinary (c : Char) : Bool :=
  c != ' ' && c != '"' && c != '\'' && c != '\\'

/-- A text without spaces, quotes and backslashes. -/
def content (t : Text) : Text :=
  t.filter isOrdinary

theorem content_append (s t : Text) : content (s ++ t) = content s ++ content t :=
  List.filter_append s t

theorem content_concat (t : Text) (c : Char) :
    content (t ++ [c]) = if isOrdinary c then content t ++ [c] else content t := by
  rw [content_append, content, content, List.filter_singleton]
  cases isOrdinary c with
  | true => rfl
  | false => exact List.append_nil _

/-- An ordinary character is none of those that a scan looks at. -/
theorem isOrdinary_iff {c : Char} :
    isOrdinary c = true ↔ c ≠ ' ' ∧ c ≠ '\\' ∧ c ≠ '\'' ∧ c ≠ '"' := by
  simp only [isOrdinary, Bool.and_eq_true, bne_iff_ne]
  tauto

end Text

namespace WordScan

open Text

/-- What the scan has kept of the content of the text before it. -/
def held (s : WordScan) : Text :=
  content (s.words.flatten ++ s.word)

/-- The character is taken for the second half of a pair that ends verbatim text. -/
def EndsVerbatim (s : WordScan) (c : Char) : Prop :=
  c = '"' ∧ s.escaped = false ∧ s.quoting = .verbatim ∧ s.prev = some '"'

/-- The character makes the scan take an ordinary one out of the word: it ends verbatim text, and
the word does not end in the first half of the pair. -/
def Loses (s : WordScan) (c : Char) : Prop :=
  s.EndsVerbatim c ∧ ∃ x, s.word.getLast? = some x ∧ isOrdinary x = true

/-- What a double quote may do to a scan: it is text, or it opens or closes a quotation or a
verbatim part. -/
inductive QuoteDoes (s : WordScan) : WordScan → Prop
  | text {s' : WordScan} (hwords : s'.words = s.words) (hword : s'.word = s.word ++ ['"'])
    (hquoting : s'.quoting = s.quoting) : QuoteDoes s s'
  | opens (hescaped : s.escaped = false) (hquoting : s.quoting = .bare) :
    QuoteDoes s { s with quoting := .double }
  | startsVerbatim (hstarts : s.StartsVerbatim '"') : QuoteDoes s { s with quoting := .verbatim }
  | closes : QuoteDoes s { s.close with quoting := .bare }
  | endsVerbatim (hends : s.EndsVerbatim '"') :
    QuoteDoes s { { s with word := s.word.dropLast }.flush with quoting := .bare }

variable {s : WordScan} {c : Char}

theorem quoteDoes_onDoubleQuote (s : WordScan) : s.QuoteDoes s.onDoubleQuote := by
  rw [onDoubleQuote]
  split
  · exact .text rfl rfl rfl
  · next h =>
    have hescaped : s.escaped = false := Bool.eq_false_iff.mpr h
    split
    · next hquoting => exact .opens hescaped hquoting
    · exact .text rfl rfl rfl
    · next hquoting =>
      split
      · next hprev => exact .startsVerbatim ⟨rfl, hescaped, hquoting, hprev⟩
      · exact .closes
    · next hquoting =>
      split
      · next hprev => exact .endsVerbatim ⟨rfl, hescaped, hquoting, hprev⟩
      · exact .text rfl rfl rfl

/-- What holds of a scan behind each kind of character holds behind every character. -/
theorem step_elim {P : Char → WordScan → Prop} (s : WordScan) (c : Char)
    (space : P ' ' { s.onSpace with prev := some ' ' })
    (backslash : P '\\' { s.onBackslash with prev := some '\\' })
    (single : P '\'' { s.onSingleQuote with prev := some '\'' })
    (double : P '"' { s.onDoubleQuote with prev := some '"' })
    (other : P c { s.onOther c with prev := some c }) : P c (s.step c) := by
  by_cases hspace : c = ' '
  · subst hspace
    exact space
  · by_cases hbackslash : c = '\\'
    · subst hbackslash
      exact backslash
    · by_cases hsingle : c = '\''
      · subst hsingle
        exact single
      · by_cases hdouble : c = '"'
        · subst hdouble
          exact double
        · rw [step]
          simp only [hspace, hbackslash, hsingle, hdouble, if_false]
          exact other

/-! ### What one character does to what is kept -/

theorem held_put (s : WordScan) (c : Char) : (s.put c).held = s.held ++ content [c] := by
  rw [held, held, ← content_append, List.append_assoc]
  rfl

theorem held_putEscaped (s : WordScan) (c : Char) :
    (s.putEscaped c).held = s.held ++ content [c] :=
  s.held_put c

theorem held_flush (s : WordScan) : s.flush.held = s.held := by
  simp [held, flush]

theorem held_close (s : WordScan) : s.close.held = s.held := by
  rw [close]
  split
  · rfl
  · exact s.held_flush

theorem word_close (s : WordScan) : s.close.word = [] := by
  rw [close]
  split
  · next hempty => exact List.isEmpty_iff.mp hempty
  · rfl

theorem held_onSpace (s : WordScan) : s.onSpace.held = s.held := by
  rw [onSpace]
  split
  · exact (s.held_putEscaped ' ').trans (List.append_nil _)
  · split
    · exact s.held_close
    · exact (s.held_put ' ').trans (List.append_nil _)

theorem held_onBackslash (s : WordScan) : s.onBackslash.held = s.held := by
  rw [onBackslash]
  split
  · exact (s.held_putEscaped '\\').trans (List.append_nil _)
  · rfl

theorem held_onSingleQuote (s : WordScan) : s.onSingleQuote.held = s.held := by
  rw [onSingleQuote]
  split
  · exact (s.held_putEscaped '\'').trans (List.append_nil _)
  · split
    · rfl
    · exact s.held_close
    · exact (s.held_put '\'').trans (List.append_nil _)
    · exact (s.held_putEscaped '\'').trans (List.append_nil _)

theorem held_onOther (s : WordScan) (c : Char) :
    (s.onOther c).held = s.held ++ content [c] := by
  rw [onOther]
  split
  · -- the backslash that was waiting comes first
    have hbackslash : (s.putEscaped '\\').held = s.held :=
      (s.held_putEscaped '\\').trans (List.append_nil _)
    rw [held_put, hbackslash]
  · exact s.held_put c

/-- What is kept when the last character is taken out of the word. -/
theorem held_dropLast_flush (s : WordScan) :
    ({ s with word := s.word.dropLast }.flush).held =
      if s.word.getLast?.any isOrdinary then s.held.dropLast else s.held := by
  rw [held_flush, held, held]
  rcases List.eq_nil_or_concat' s.word with hword | ⟨before, last, hword⟩
  · rw [hword]
    rfl
  · rw [hword, List.dropLast_concat, List.getLast?_concat, Option.any_some, ← List.append_assoc,
      content_concat]
    split
    · rw [List.dropLast_concat]
    · rfl

theorem held_onDoubleQuote (h : ¬s.Loses '"') : s.onDoubleQuote.held = s.held := by
  have hdoes := s.quoteDoes_onDoubleQuote
  generalize s.onDoubleQuote = s' at hdoes ⊢
  cases hdoes with
  | text hwords hword hquoting =>
    rw [held, held, hwords, hword, ← List.append_assoc, content_append]
    exact List.append_nil _
  | opens hescaped hquoting => rfl
  | startsVerbatim hstarts => rfl
  | closes => exact s.held_close
  | endsVerbatim hends =>
    have hlast : ¬s.word.getLast?.any isOrdinary = true := by
      rw [Option.any_eq_true]
      exact fun hordinary => h ⟨hends, hordinary⟩
    exact s.held_dropLast_flush.trans (if_neg hlast)

/-- A character that loses nothing is kept, if it is an ordinary one. -/
theorem held_step (h : ¬s.Loses c) : (s.step c).held = s.held ++ content [c] := by
  revert h
  apply s.step_elim (P := fun c s' => ¬s.Loses c → s'.held = s.held ++ content [c]) c
  · exact fun _ => s.held_onSpace.trans (List.append_nil _).symm
  · exact fun _ => s.held_onBackslash.trans (List.append_nil _).symm
  · exact fun _ => s.held_onSingleQuote.trans (List.append_nil _).symm
  · exact fun h => (held_onDoubleQuote h).trans (List.append_nil _).symm
  · exact fun _ => s.held_onOther c

theorem held_step_of_loses (h : s.Loses c) : (s.step c).held = s.held.dropLast := by
  obtain ⟨⟨rfl, hescaped, hquoting, hprev⟩, hlast⟩ := h
  have hdoes : s.onDoubleQuote =
      { { s with word := s.word.dropLast }.flush with quoting := .bare } := by
    rw [onDoubleQuote, hescaped, hquoting, hprev]
    rfl
  have hany := (Option.any_eq_true isOrdinary s.word.getLast?).mpr hlast
  have hheld := s.held_dropLast_flush.trans (if_pos hany)
  rw [step]
  simp only [hdoes]
  exact hheld

/-- There is something to lose. -/
theorem Loses.held_ne_nil (h : s.Loses c) : s.held ≠ [] := by
  obtain ⟨-, x, hx, hordinary⟩ := h
  have hmem : x ∈ s.held :=
    List.mem_filter.mpr ⟨List.mem_append_right _ (List.mem_of_getLast? hx), hordinary⟩
  exact List.ne_nil_of_mem hmem

theorem content_flatten_finish (s : WordScan) : content s.finish.flatten = s.held := by
  have hclosed (r : WordScan) : content r.close.words.flatten = r.held := by
    rw [← r.held_close, held, word_close, List.append_nil]
  rw [finish, hclosed]
  split
  · exact (s.held_put '\\').trans (List.append_nil _)
  · rfl

/-! ### What a whole text leaves -/

/-- A scan keeps no more than there is. -/
theorem length_held_ofText_le (t : Text) : (ofText t).held.length ≤ (content t).length := by
  induction t using List.reverseRecOn with
  | nil => exact Nat.le_refl _
  | append_singleton t c ih =>
    rw [ofText_concat, content_append, List.length_append]
    by_cases hloses : (ofText t).Loses c
    · rw [held_step_of_loses hloses, List.length_dropLast]
      omega
    · rw [held_step hloses, List.length_append]
      omega

/-- A scan has kept everything exactly if it has lost nothing at any place: what is lost once is
lost for good. -/
theorem held_ofText_eq_iff {t : Text} :
    (ofText t).held = content t ↔ ∀ p c, p ++ [c] <+: t → ¬(ofText p).Loses c := by
  induction t using List.reverseRecOn with
  | nil =>
    refine iff_of_true rfl fun p c hp => ?_
    have hne : p ++ [c] ≠ [] := List.append_ne_nil_of_right_ne_nil p (List.cons_ne_nil c [])
    exact absurd (List.prefix_nil.mp hp) hne
  | append_singleton t c ih =>
    rw [ofText_concat, content_append]
    constructor
    · intro hkept
      have hnot : ¬(ofText t).Loses c := by
        intro hloses
        have hle := length_held_ofText_le t
        have hpos := List.length_pos_iff.mpr hloses.held_ne_nil
        have hlength := congrArg List.length hkept
        rw [held_step_of_loses hloses, List.length_dropLast, List.length_append] at hlength
        omega
      rw [held_step hnot] at hkept
      have hbefore := ih.mp (List.append_cancel_right hkept)
      intro p d hp
      rcases List.prefix_concat_iff.mp hp with heq | hshorter
      · obtain ⟨rfl, hd⟩ := List.append_inj' heq rfl
        obtain rfl := List.singleton_inj.mp hd
        exact hnot
      · exact hbefore p d hshorter
    · intro hnever
      have hbefore := ih.mpr fun p d hp => hnever p d (hp.trans (List.prefix_append t [c]))
      rw [held_step (hnever t c List.prefix_rfl), hbefore]

/-! ### Where something is lost -/

/-- Outside of quotations, and unless a backslash waits, the word is empty or ends in a given
character. -/
def EndsIn (s : WordScan) (c : Char) : Prop :=
  s.quoting = .bare → s.escaped = false → s.word = [] ∨ s.word.getLast? = some c

theorem endsIn_put (s : WordScan) (c : Char) : (s.put c).EndsIn c :=
  fun _ _ => .inr List.getLast?_concat

theorem endsIn_putEscaped (s : WordScan) (c : Char) : (s.putEscaped c).EndsIn c :=
  fun _ _ => .inr List.getLast?_concat

theorem endsIn_of_word_eq_nil (h : s.word = []) : s.EndsIn c :=
  fun _ _ => .inl h

theorem endsIn_of_quoting_ne (h : s.quoting ≠ .bare) : s.EndsIn c :=
  fun hquoting _ => absurd hquoting h

theorem endsIn_onSpace (s : WordScan) : s.onSpace.EndsIn ' ' := by
  rw [onSpace]
  split
  · exact s.endsIn_putEscaped ' '
  · split
    · exact endsIn_of_word_eq_nil s.word_close
    · exact s.endsIn_put ' '

theorem endsIn_onBackslash (s : WordScan) : s.onBackslash.EndsIn '\\' := by
  rw [onBackslash]
  split
  · exact s.endsIn_putEscaped '\\'
  · exact fun _ hescaped => absurd hescaped Bool.noConfusion

theorem endsIn_onSingleQuote (s : WordScan) : s.onSingleQuote.EndsIn '\'' := by
  rw [onSingleQuote]
  split
  · exact s.endsIn_putEscaped '\''
  · split
    · exact endsIn_of_quoting_ne Quoting.noConfusion
    · exact endsIn_of_word_eq_nil s.word_close
    · exact s.endsIn_put '\''
    · exact s.endsIn_putEscaped '\''

theorem endsIn_onDoubleQuote (s : WordScan) : s.onDoubleQuote.EndsIn '"' := by
  have hdoes := s.quoteDoes_onDoubleQuote
  generalize s.onDoubleQuote = s' at hdoes ⊢
  cases hdoes with
  | text hwords hword hquoting => exact fun _ _ => .inr (hword ▸ List.getLast?_concat)
  | opens hescaped hquoting => exact endsIn_of_quoting_ne Quoting.noConfusion
  | startsVerbatim hstarts => exact endsIn_of_quoting_ne Quoting.noConfusion
  | closes => exact endsIn_of_word_eq_nil s.word_close
  | endsVerbatim hends => exact endsIn_of_word_eq_nil rfl

theorem endsIn_onOther (s : WordScan) (c : Char) : (s.onOther c).EndsIn c := by
  rw [onOther]
  split
  · exact endsIn_put _ c
  · exact s.endsIn_put c

theorem endsIn_step (s : WordScan) (c : Char) : (s.step c).EndsIn c := by
  apply s.step_elim (P := fun c s' => s'.EndsIn c) c
  · exact s.endsIn_onSpace
  · exact s.endsIn_onBackslash
  · exact s.endsIn_onSingleQuote
  · exact s.endsIn_onDoubleQuote
  · exact s.endsIn_onOther c

/-- An ordinary character becomes the end of the word and leaves the quotation as it is. -/
theorem step_of_isOrdinary (h : isOrdinary c = true) (s : WordScan) :
    (s.step c).quoting = s.quoting ∧ (s.step c).escaped = false ∧
      (s.step c).word.getLast? = some c := by
  obtain ⟨hspace, hbackslash, hsingle, hdouble⟩ := isOrdinary_iff.mp h
  rw [step]
  simp only [hspace, hbackslash, hsingle, hdouble, if_false]
  rw [onOther]
  split
  · exact ⟨rfl, rfl, List.getLast?_concat⟩
  · next hescaped => exact ⟨rfl, Bool.eq_false_iff.mpr hescaped, List.getLast?_concat⟩

theorem exists_of_prev_ofText {t : Text} (h : (ofText t).prev = some c) :
    ∃ p, t = p ++ [c] ∧ ofText t = (ofText p).step c := by
  rcases List.eq_nil_or_concat' t with rfl | ⟨p, d, rfl⟩
  · contradiction
  · rw [prev_ofText_concat] at h
    obtain rfl := Option.some.inj h
    exact ⟨p, rfl, ofText_concat p d⟩

/-- Behind a double quote inside of a quotation, the word ends in that quote, or the quote has
opened the quotation or started its verbatim part and has left the word as it was. -/
theorem word_step_quote (hinside : (s.step '"').quoting ≠ .bare) :
    (s.step '"').word.getLast? = some '"' ∨
      (s.step '"').word = s.word ∧
        ((s.step '"').quoting = .double ∧ s.quoting = .bare ∧ s.escaped = false ∨
          (s.step '"').quoting = .verbatim ∧ s.StartsVerbatim '"') := by
  have hdoes := s.quoteDoes_onDoubleQuote
  have hstep : s.step '"' = { s.onDoubleQuote with prev := some '"' } := rfl
  rw [hstep] at hinside ⊢
  generalize s.onDoubleQuote = s' at hdoes hinside ⊢
  cases hdoes with
  | text hwords hword hsame => exact .inl (hword ▸ List.getLast?_concat)
  | opens hescaped hbare => exact .inr ⟨rfl, .inl ⟨rfl, hbare, hescaped⟩⟩
  | startsVerbatim hstarts => exact .inr ⟨rfl, .inr ⟨rfl, hstarts⟩⟩
  | closes | endsVerbatim hends => exact absurd rfl hinside

/-- A scan loses a character at the third of three double quotes behind it, if it is an ordinary one
outside of quotations, and nowhere else. -/
theorem loses_ofText_iff {p : Text} :
    (ofText p).Loses c ↔
      c = '"' ∧ ∃ before x, p = before ++ [x, '"', '"'] ∧ isOrdinary x = true ∧
        (ofText before).quoting = .bare := by
  constructor
  · rintro ⟨⟨hc, -, hverbatim, hprev⟩, x, hx, hordinary⟩
    have hnot : some x ≠ some '"' :=
      fun heq => (isOrdinary_iff.mp hordinary).2.2.2 (Option.some.inj heq)
    -- neither of the two quotes before is text, since the word ends in something else
    obtain ⟨q, rfl, hq⟩ := exists_of_prev_ofText hprev
    rw [hq] at hverbatim hx
    have hinside : ((ofText q).step '"').quoting ≠ .bare := by
      rw [hverbatim]
      exact Quoting.noConfusion
    have hstarted : ((ofText q).step '"').word = (ofText q).word ∧
        (ofText q).StartsVerbatim '"' := by
      rcases word_step_quote hinside with
        hlast | ⟨hword, ⟨hdouble, -⟩ | ⟨-, hstarts⟩⟩
      · exact absurd (hx.symm.trans hlast) hnot
      · exact absurd (hverbatim.symm.trans hdouble) Quoting.noConfusion
      · exact ⟨hword, hstarts⟩
    obtain ⟨hword, -, -, hdouble, hprev⟩ := hstarted
    obtain ⟨u, rfl, hu⟩ := exists_of_prev_ofText hprev
    rw [hword, hu] at hx
    rw [hu] at hdouble
    have hinside' : ((ofText u).step '"').quoting ≠ .bare := by
      rw [hdouble]
      exact Quoting.noConfusion
    have hopened : ((ofText u).step '"').word = (ofText u).word ∧
        (ofText u).quoting = .bare ∧ (ofText u).escaped = false := by
      rcases word_step_quote hinside' with
        hlast | ⟨hword, ⟨-, hopens⟩ | ⟨hverbatim, -⟩⟩
      · exact absurd (hx.symm.trans hlast) hnot
      · exact ⟨hword, hopens⟩
      · exact absurd (hdouble.symm.trans hverbatim) Quoting.noConfusion
    obtain ⟨hword, hbare, hescaped⟩ := hopened
    rw [hword] at hx
    -- and the word ends in the character in front of them
    rcases List.eq_nil_or_concat' u with rfl | ⟨before, y, rfl⟩
    · contradiction
    · rw [ofText_concat] at hescaped hbare hx
      have hlast : ((ofText before).step y).word.getLast? = some y := by
        refine ((ofText before).endsIn_step y hbare hescaped).resolve_left ?_
        intro hempty
        rw [hempty] at hx
        contradiction
      obtain rfl : x = y := Option.some.inj (hx.symm.trans hlast)
      rw [(step_of_isOrdinary hordinary _).1] at hbare
      exact ⟨hc, before, x, by simp, hordinary, hbare⟩
  · rintro ⟨rfl, before, x, rfl, hordinary, hbare⟩
    have happend : before ++ [x, '"', '"'] = before ++ [x] ++ ['"'] ++ ['"'] := by simp
    obtain ⟨hquoting, hescaped, hlast⟩ := step_of_isOrdinary hordinary (ofText before)
    rw [hbare] at hquoting
    rw [happend, ofText_concat, ofText_concat, ofText_concat]
    generalize (ofText before).step x = s at hquoting hescaped hlast
    have hopened : s.step '"' = { s with quoting := .double, prev := some '"' } := by
      simp [step, onDoubleQuote, hescaped, hquoting]
    have hstarted : (s.step '"').step '"' = { s with quoting := .verbatim, prev := some '"' } := by
      rw [hopened]
      simp [step, onDoubleQuote, hescaped]
    rw [hstarted]
    exact ⟨⟨rfl, hescaped, rfl, rfl⟩, x, hlast, hordinary⟩

end WordScan

namespace Text

open WordScan

/-- The words of a line keep all of its content, whatever its quotations, escapes and verbatim parts
are, exactly if no ordinary character outside of quotations is directly followed by three double
quotes. -/
theorem content_words_eq_iff (t : Text) :
    content (Words.ofLine t none).words.flatten = content t ↔
      ∀ before x, before ++ [x, '"', '"', '"'] <+: t → isOrdinary x = true →
        (ofText before).quoting ≠ .bare := by
  rw [Words.words_ofLine, content_flatten_finish, held_ofText_eq_iff]
  constructor
  · intro hnever before x hp hordinary hbare
    have happend : before ++ [x, '"', '"'] ++ ['"'] = before ++ [x, '"', '"', '"'] := by simp
    exact hnever _ '"' (happend ▸ hp) (loses_ofText_iff.mpr ⟨rfl, before, x, rfl, hordinary, hbare⟩)
  · intro hnone p c hp hloses
    obtain ⟨rfl, before, x, rfl, hordinary, hbare⟩ := loses_ofText_iff.mp hloses
    rw [List.append_assoc] at hp
    exact hnone before x hp hordinary hbare

/-- The character in front of three double quotes is lost: what is left of the line is one empty
word. -/
theorem content_lost_before_three_quotes :
    let t : Text := "a\"\"\"".toList
    (Words.ofLine t none).words = [[]] ∧ content t = ['a'] ∧
      content (Words.ofLine t none).words.flatten ≠ content t := by
  decide

end Text

end LineEditor
