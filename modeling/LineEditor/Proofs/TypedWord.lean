import LineEditor.Proofs.Access.Scan
import Mathlib.Data.List.TakeWhile

/-!
# The word before the cursor, and what is added to it

A word is typed with a backslash in front of each of its spaces, and what is added to it is escaped
in the same way. The escapes are read at one character and the one before it; so it is to be shown
that adding to the escaped word adds to the word that is meant, wherever backslashes stand. The
white space in front of a line is no part of the word, as long as it consists of spaces.

## Main definitions

* `Text.typedWord` is the word at the end of a text, without its escapes.
* `Text.IsCommonStart` — a text is the longest one that some texts start with.

## Main results

* `Text.typedWord_append_escapeSpaces` — adding to the escaped word adds to the word.
* `Text.typedWord_trimStart` — the spaces in front of a text are no part of its last word.
* `Text.commonStart_drop_eq` — what texts have in common behind a start that all of them share.
-/

namespace LineEditor.Text

/-- The word at the end of a text as far as it has been typed, without its escapes. -/
def typedWord (before : Text) : Text :=
  unescapeSpaces (lastWord before)

/-! ### Escapes -/

section Escapes

variable {s t : Text}

theorem escapeSpaces_cons (c : Char) (t : Text) :
    escapeSpaces (c :: t) = (if c = ' ' then ['\\', ' '] else [c]) ++ escapeSpaces t := rfl

/-- No escaped text begins with a space. -/
theorem head?_escapeSpaces_ne (t : Text) : (escapeSpaces t).head? ≠ some ' ' := by
  cases t with
  | nil => simp [escapeSpaces]
  | cons c t =>
    rw [escapeSpaces_cons]
    split
    · simp
    · next hspace => simpa using hspace

theorem escapeSpaces_eq_nil_iff : escapeSpaces t = [] ↔ t = [] := by
  cases t with
  | nil => exact Iff.rfl
  | cons c t =>
    rw [escapeSpaces_cons]
    split
    · simp
    · simp

/-- A text that does not begin with a space undoes no escape at the end of another one. -/
theorem unescapeSpaces_append (h : t.head? ≠ some ' ') :
    unescapeSpaces (s ++ t) = unescapeSpaces s ++ unescapeSpaces t := by
  fun_induction unescapeSpaces s with
  | case1 => rfl
  | case2 rest ih => exact congrArg (' ' :: ·) ih
  | case3 c rest hescape ih =>
    rw [List.cons_append, unescapeSpaces, ih, List.cons_append]
    rintro rest' rfl hrest
    cases rest with
    | nil => exact h (by rw [← List.nil_append t, hrest]; rfl)
    | cons d rest =>
      obtain ⟨rfl, -⟩ := List.cons.inj hrest
      exact hescape rest rfl rfl

/-- Escapes are taken back, also behind backslashes of the text itself. -/
theorem unescapeSpaces_escapeSpaces (t : Text) : unescapeSpaces (escapeSpaces t) = t := by
  induction t with
  | nil => rfl
  | cons c t ih =>
    rw [escapeSpaces_cons, unescapeSpaces_append (head?_escapeSpaces_ne t), ih]
    split
    · next hspace => rw [hspace]; rfl
    · rw [unescapeSpaces]
      · rfl
      · rintro rest rfl hrest
        contradiction

/-- Escaped text belongs to the word that it follows. -/
theorem lastWord_append_escapeSpaces (s t : Text) :
    lastWord (s ++ escapeSpaces t) = lastWord s ++ escapeSpaces t := by
  induction t generalizing s with
  | nil => rw [escapeSpaces, List.flatMap_nil, List.append_nil, List.append_nil]
  | cons c t ih =>
    have hchar : lastWord (s ++ if c = ' ' then ['\\', ' '] else [c]) =
        lastWord s ++ if c = ' ' then ['\\', ' '] else [c] := by
      split
      · have hescape : lastWord (s ++ ['\\']) = lastWord s ++ ['\\'] := by
          rw [Access.lastWord_concat, if_neg (by simp)]
        have hspace := Access.lastWord_concat (s ++ ['\\']) ' '
        rw [if_neg (by simp), hescape] at hspace
        simpa using hspace
      · next hspace => rw [Access.lastWord_concat, if_neg (by simp [hspace])]
    rw [escapeSpaces_cons, ← List.append_assoc, ih, hchar, List.append_assoc]

/-- Adding to the escaped word adds to the word. -/
theorem typedWord_append_escapeSpaces (s t : Text) :
    typedWord (s ++ escapeSpaces t) = typedWord s ++ t := by
  rw [typedWord, lastWord_append_escapeSpaces, unescapeSpaces_append (head?_escapeSpaces_ne t),
    unescapeSpaces_escapeSpaces]
  rfl

end Escapes

/-! ### White space in front -/

theorem lastWord_space_cons (t : Text) : lastWord (' ' :: t) = lastWord t := by
  cases t with
  | nil => rfl
  | cons c t =>
    have hfirst : separates none ' ' = true := by simp
    have hseparates : separates (some ' ') c = separates none c := rfl
    rw [lastWord, lastWord, lastWordFrom, if_pos hfirst, lastWordFrom, lastWordFrom, hseparates]

/-- The spaces in front of a text are no part of its last word. -/
theorem typedWord_trimStart {t : Text} (h : ∀ c ∈ t.takeWhile Unicode.isBlank, c = ' ') :
    typedWord (trimStart t) = typedWord t := by
  suffices hlast : lastWord (trimStart t) = lastWord t by rw [typedWord, hlast, typedWord]
  induction t with
  | nil => rfl
  | cons c t ih =>
    rw [trimStart, List.dropWhile_cons]
    split
    · next hblank =>
      rw [List.takeWhile_cons_of_pos hblank] at h
      obtain rfl := h c List.mem_cons_self
      rw [lastWord_space_cons]
      exact ih fun c hmem => h c (List.mem_cons_of_mem _ hmem)
    · rfl

/-- White space other than spaces is not escaped, and is trimmed in front of an escaped text. -/
theorem trimStart_escapeSpaces (t : Text) :
    trimStart (escapeSpaces t) =
      escapeSpaces (t.dropWhile fun c => Unicode.isBlank c && c != ' ') := by
  have hbackslash : Unicode.isBlank '\\' = false := by decide
  induction t with
  | nil => rfl
  | cons c t ih =>
    rw [escapeSpaces_cons, List.dropWhile_cons]
    by_cases hspace : c = ' '
    · rw [if_pos hspace, hspace]
      simp [trimStart, hbackslash, escapeSpaces]
    · cases hblank : Unicode.isBlank c with
      | true => simpa [hspace, hblank, trimStart] using ih
      | false => simp [hspace, hblank, trimStart, escapeSpaces]

/-- No white space is trimmed in front of an escaped text that begins with a space, or with none. -/
theorem takeWhile_escapeSpaces_eq_nil {t : Text}
    (h : ∀ c ∈ t.head?, Unicode.isBlank c = true → c = ' ') :
    (escapeSpaces t).takeWhile Unicode.isBlank = [] := by
  have hbackslash : Unicode.isBlank '\\' = false := by decide
  cases t with
  | nil => rfl
  | cons c t =>
    have hhead := h c rfl
    rw [escapeSpaces_cons]
    by_cases hspace : c = ' '
    · simp [hspace, hbackslash]
    · simp [hspace, Bool.eq_false_iff.mpr (mt hhead hspace)]

/-- Where an escaped text is added behind spaces, the white space in front consists of spaces still,
unless other white space is added directly behind them. -/
theorem eq_space_of_mem_takeWhile_append {s t : Text}
    (hs : ∀ c ∈ s.takeWhile Unicode.isBlank, c = ' ')
    (ht : (∀ c ∈ s, Unicode.isBlank c = true) →
      ∀ c ∈ t.head?, Unicode.isBlank c = true → c = ' ') :
    ∀ c ∈ (s ++ escapeSpaces t).takeWhile Unicode.isBlank, c = ' ' := by
  intro c hmem
  rw [List.takeWhile_append] at hmem
  split at hmem
  · next hlength =>
    have hall : s.takeWhile Unicode.isBlank = s := (List.takeWhile_sublist _).eq_of_length hlength
    rw [hall] at hs
    have hhead := ht fun c hc => List.mem_takeWhile_imp (hall.symm ▸ hc)
    rw [takeWhile_escapeSpaces_eq_nil hhead, List.append_nil] at hmem
    exact hs c hmem
  · exact hs c hmem

/-- Where the characters at the front of a text are dropped, and some whole starts with the text as
well as with what is left of it, nothing is left. -/
theorem dropWhile_eq_nil_of_isStart {p : Char → Bool} {t whole : Text} {c : Char}
    (hhead : t.head? = some c) (hc : p c = true) (ht : t <+: whole)
    (hrest : t.dropWhile p <+: whole) : t.dropWhile p = [] := by
  cases hdrop : t.dropWhile p with
  | nil => rfl
  | cons d more =>
    -- both begin like the whole text, so that the rest begins with white space as well
    have hd : p d = false := by simpa [hdrop] using List.head?_dropWhile_not p t
    obtain ⟨tail, rfl⟩ := List.head?_eq_some_iff.mp hhead
    obtain ⟨behind, rfl⟩ := ht
    obtain ⟨behind', hbehind⟩ := hdrop ▸ hrest
    obtain ⟨rfl, -⟩ := List.cons.inj hbehind
    exact absurd (hc.symm.trans hd) Bool.noConfusion

/-- After spaces alone nothing is typed of a word. -/
theorem typedWord_eq_nil_of_spaces {t : Text} (h : ∀ c ∈ t, c = ' ') : typedWord t = [] := by
  induction t with
  | nil => rfl
  | cons c t ih =>
    obtain rfl := h c List.mem_cons_self
    rw [typedWord, lastWord_space_cons]
    exact ih fun c hmem => h c (List.mem_cons_of_mem _ hmem)

/-! ### What texts have in common -/

/-- A text is the longest one that all of some texts start with. -/
structure IsCommonStart (common : Text) (texts : List Text) : Prop where
  isStart : ∀ t ∈ texts, common <+: t
  longest : ∀ s, (∀ t ∈ texts, s <+: t) → s <+: common

theorem commonStart₂_isStart (s t : Text) : commonStart₂ s t <+: s ∧ commonStart₂ s t <+: t := by
  fun_induction commonStart₂ s t with
  | case1 s c t ih =>
    exact ⟨(List.prefix_cons_inj c).mpr ih.1, (List.prefix_cons_inj c).mpr ih.2⟩
  | case2 => exact ⟨List.nil_prefix, List.nil_prefix⟩
  | case3 => exact ⟨List.nil_prefix, List.nil_prefix⟩

theorem isStart_commonStart₂ {start s t : Text} (hs : start <+: s) (ht : start <+: t) :
    start <+: commonStart₂ s t := by
  obtain ⟨s, rfl⟩ := hs
  obtain ⟨t, rfl⟩ := ht
  induction start with
  | nil => exact List.nil_prefix
  | cons a start ih => simpa [commonStart₂] using ih

theorem isCommonStart_commonStart {texts : List Text} (h : texts ≠ []) :
    IsCommonStart (commonStart texts) texts := by
  obtain ⟨first, rest, rfl⟩ := List.exists_cons_of_ne_nil h
  rw [commonStart]
  clear h
  induction rest generalizing first with
  | nil => exact ⟨by simp, fun s hs => hs first List.mem_cons_self⟩
  | cons second rest ih =>
    obtain ⟨hstart, hlongest⟩ := ih (commonStart₂ first second)
    have hboth := hstart _ List.mem_cons_self
    obtain ⟨hfirst, hsecond⟩ := commonStart₂_isStart first second
    constructor
    · intro t hmem
      rcases List.mem_cons.mp hmem with rfl | hmem
      · exact hboth.trans hfirst
      · rcases List.mem_cons.mp hmem with rfl | hmem
        · exact hboth.trans hsecond
        · exact hstart t (List.mem_cons_of_mem _ hmem)
    · intro s hs
      refine hlongest s fun t hmem => ?_
      rcases List.mem_cons.mp hmem with rfl | hmem
      · exact isStart_commonStart₂ (hs first (by simp)) (hs second (by simp))
      · exact hs t (by simp [hmem])

theorem IsCommonStart.unique {s t : Text} {texts : List Text} (hs : IsCommonStart s texts)
    (ht : IsCommonStart t texts) : s = t :=
  (ht.longest s hs.isStart).eq_of_length_le (hs.longest t ht.isStart).length_le

/-- What texts have in common behind a start that all of them share. -/
theorem commonStart_drop_eq {start rest : Text} {texts : List Text} (hne : texts ≠ [])
    (h : IsCommonStart (start ++ rest) texts) :
    commonStart (texts.map (·.drop start.length)) = rest := by
  refine (isCommonStart_commonStart (by simpa using hne)).unique ⟨?_, ?_⟩
  · intro t hmem
    obtain ⟨whole, hwhole, rfl⟩ := List.mem_map.mp hmem
    obtain ⟨more, rfl⟩ := h.isStart whole hwhole
    rw [List.append_assoc, List.drop_left]
    exact List.prefix_append rest more
  · intro s hs
    have hlonger : start ++ s <+: start ++ rest := by
      refine h.longest _ fun whole hwhole => ?_
      obtain ⟨more, rfl⟩ := h.isStart whole hwhole
      have hdrop := hs _ (List.mem_map_of_mem hwhole)
      rw [List.append_assoc, List.drop_left] at hdrop
      rw [List.append_assoc]
      exact (List.prefix_append_right_inj start).mpr hdrop
    exact (List.prefix_append_right_inj start).mp hlonger

end LineEditor.Text
