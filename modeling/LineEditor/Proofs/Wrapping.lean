import LineEditor.Text.Wrap
import Mathlib.Data.List.Chain

/-!
# Words in lines of a limited length

A text is wrapped by taking its words into a line as long as they fit, and beginning a new line with
the first that does not. Only a word that is too long itself makes a line too long. How the spaces
stood in the text is forgotten: a line has one between two words and none at its ends.

Three properties of the lines say all of this, and no other lines have them. The first lines of two
wrappings cannot differ: if one of them had more words, the other would have had room for the first
of these.

## Main definitions

* `Text.IsWord` — a text that is a single word.
* `Text.Filled` — the words stand in lines, each of which holds as many as fit.
* `Text.Begun` — what holds of a line while it is being filled.

## Main results

* `Text.exists_eq_append_of_splitOn_eq` — a text whose pieces begin with those of another text.
* `Text.filled_cons_iff` — filled lines, one after the other.
* `Text.filled_wrapWords` — the lines that are made are filled.
* `Text.Filled.unique` — there is one way to fill lines with given words.
* `Text.eq_wrap_iff_filled` — the lines of a text are the filled lines of its words.
-/

namespace LineEditor

namespace Text

/-- The text is a single word: it is not empty and has no space in it. -/
def IsWord (t : Text) : Prop :=
  t ≠ [] ∧ ' ' ∉ t

/-- The words stand in lines, each of which holds as many of them as fit. -/
structure Filled (size : Nat) (ws lines : List Text) : Prop where
  /-- Cut at the spaces, the lines are the words in order. -/
  pieces_eq : lines.flatMap (splitOn ' ') = ws
  /-- A line that is too long is a single word. -/
  length_le : ∀ line ∈ lines, line.length ≤ size ∨ line.IsWord
  /-- With a space and the first word of the next line, a line would be too long. -/
  full : lines.IsChain fun line next =>
    ∃ word ∈ (words next).head?, size < (line ++ ' ' :: word).length

/-- A line while it is being filled: there is one space between two words and none at the ends, and
the line is not too long unless it is a single word. -/
structure Begun (size : Nat) (line : Text) : Prop where
  nil_not_mem : [] ∉ splitOn ' ' line
  length_le : line.length ≤ size ∨ line.IsWord

variable {size : Nat} {sep : Char} {s t line word : Text} {ws rest lines : List Text}

/-! ### Pieces and words -/

theorem splitOn_injective (sep : Char) : Function.Injective (splitOn sep) := by
  have hleft : Function.LeftInverse [sep].intercalate (splitOn sep) := by
    intro t
    rw [splitOn_eq]
    exact List.intercalate_splitOn sep
  exact hleft.injective

/-- A text that has the pieces of another text and further ones goes on behind the other. -/
theorem exists_eq_append_of_splitOn_eq (h : splitOn sep t = splitOn sep s ++ word :: rest) :
    ∃ tail, t = s ++ sep :: (word ++ tail) := by
  have hpieces : ∀ piece ∈ word :: rest, sep ∉ piece := fun piece hpiece =>
    not_mem_of_mem_splitOn (h ▸ List.mem_append_right _ hpiece)
  have hbehind : splitOn sep ([sep].intercalate (word :: rest)) = word :: rest := by
    rw [splitOn_eq]
    exact List.splitOn_intercalate sep hpieces (List.cons_ne_nil word rest)
  have ht : t = s ++ sep :: [sep].intercalate (word :: rest) := by
    apply splitOn_injective sep
    rw [splitOn_append_cons, hbehind, h]
  cases rest with
  | nil => exact ⟨[], by simpa using ht⟩
  | cons next rest =>
    exact ⟨sep :: [sep].intercalate (next :: rest), by simpa [List.intercalate_cons_cons] using ht⟩

theorem isWord_of_mem_words (h : word ∈ words t) : word.IsWord := by
  obtain ⟨hpiece, hne⟩ := List.mem_filter.mp h
  exact ⟨by simpa using hne, not_mem_of_mem_splitOn hpiece⟩

theorem nil_not_mem_of_forall_isWord (h : ∀ word ∈ ws, word.IsWord) : [] ∉ ws :=
  fun hmem => (h [] hmem).1 rfl

theorem IsWord.splitOn_eq_singleton (h : word.IsWord) : splitOn ' ' word = [word] :=
  splitOn_of_not_mem h.2

theorem words_eq_splitOn (h : [] ∉ splitOn ' ' t) : words t = splitOn ' ' t := by
  refine List.filter_eq_self.mpr fun piece hpiece => ?_
  have hne : piece ≠ [] := fun hnil => h (hnil ▸ hpiece)
  simpa using hne

/-! ### Filled lines, one after the other -/

theorem filled_nil_iff : Filled size ws [] ↔ ws = [] := by
  constructor
  · intro h
    exact h.pieces_eq.symm
  · rintro rfl
    exact ⟨rfl, by simp, .nil⟩

/-- The first word of the next line is the first of all words that are left. -/
theorem forall_head?_iff {p : Text → Prop} (h : [] ∉ lines.flatMap (splitOn ' ')) :
    (∀ next ∈ lines.head?, ∃ word ∈ (words next).head?, p word) ↔
      ∀ word ∈ (lines.flatMap (splitOn ' ')).head?, p word := by
  cases lines with
  | nil => simp
  | cons next lines =>
    have hwords : words next = splitOn ' ' next :=
      words_eq_splitOn fun hnil => h (List.mem_append_left _ hnil)
    obtain ⟨first, others, hpieces⟩ := List.exists_cons_of_ne_nil (splitOn_ne_nil ' ' next)
    simp [hwords, hpieces]

/-- A line takes its words from the front, and has no room for the first that is left. -/
theorem filled_cons_iff (hws : [] ∉ ws) :
    Filled size ws (line :: lines) ↔
      (line.length ≤ size ∨ line.IsWord) ∧
        ∃ rest, ws = splitOn ' ' line ++ rest ∧
          (∀ word ∈ rest.head?, size < (line ++ ' ' :: word).length) ∧ Filled size rest lines := by
  constructor
  · rintro ⟨rfl, hlength, hfull⟩
    obtain ⟨hline, hlines⟩ := List.forall_mem_cons.mp hlength
    obtain ⟨hnext, hchain⟩ := List.isChain_cons.mp hfull
    rw [List.flatMap_cons, List.mem_append, not_or] at hws
    exact ⟨hline, _, rfl, (forall_head?_iff hws.2).mp hnext, rfl, hlines, hchain⟩
  · rintro ⟨hline, rest, rfl, hroom, rfl, hlines, hchain⟩
    rw [List.mem_append, not_or] at hws
    have hnext := (forall_head?_iff hws.2).mpr hroom
    exact ⟨rfl, List.forall_mem_cons.mpr ⟨hline, hlines⟩, List.isChain_cons.mpr ⟨hnext, hchain⟩⟩

/-! ### The line being filled -/

theorem IsWord.begun (h : word.IsWord) : Begun size word where
  nil_not_mem := by
    rw [h.splitOn_eq_singleton]
    simpa using h.1
  length_le := .inr h

theorem Begun.not_isEmpty (h : Begun size line) : ¬line.isEmpty = true := by
  rw [List.isEmpty_iff]
  rintro rfl
  exact h.nil_not_mem List.mem_cons_self

theorem splitOn_append_word (line : Text) (h : word.IsWord) :
    splitOn ' ' (line ++ ' ' :: word) = splitOn ' ' line ++ [word] := by
  rw [splitOn_append_cons, h.splitOn_eq_singleton]

/-- A line may take a word that it has room for. -/
theorem Begun.append (h : Begun size line) (hword : word.IsWord)
    (hroom : (line ++ ' ' :: word).length ≤ size) : Begun size (line ++ ' ' :: word) where
  nil_not_mem := by
    rw [splitOn_append_word line hword, List.mem_append, not_or]
    exact ⟨h.nil_not_mem, by simpa using hword.1⟩
  length_le := .inl hroom

/-- The next word goes into the line, if there is room for it, and into a new line otherwise. -/
theorem Begun.wrapWords_cons (h : Begun size line) (word : Text) (ws : List Text) :
    wrapWords size line (word :: ws) =
      if (line ++ ' ' :: word).length ≤ size then wrapWords size (line ++ ' ' :: word) ws
      else line :: wrapWords size word ws := by
  have hlength : (line ++ ' ' :: word).length = line.length + 1 + word.length := by
    simp only [List.length_append, List.length_cons]
    omega
  rw [wrapWords, if_neg h.not_isEmpty, hlength]

/-- The words of the line being filled and those that follow stand in filled lines. -/
theorem filled_wrapWords (hline : Begun size line) (hws : ∀ word ∈ ws, word.IsWord) :
    Filled size (splitOn ' ' line ++ ws) (wrapWords size line ws) := by
  -- the line changes from word to word, and `Begun` is what each change keeps
  induction ws generalizing line with
  | nil =>
    rw [wrapWords, if_neg hline.not_isEmpty, List.append_nil, filled_cons_iff hline.nil_not_mem]
    exact ⟨hline.length_le, [], by simp, by simp, filled_nil_iff.mpr rfl⟩
  | cons word ws ih =>
    obtain ⟨hword, hrest⟩ := List.forall_mem_cons.mp hws
    rw [hline.wrapWords_cons]
    split
    · next hroom =>
      have hfilled := ih (hline.append hword hroom) hrest
      rwa [splitOn_append_word line hword, List.append_assoc] at hfilled
    · next hroom =>
      -- the words from `word` on fill other lines, and the line is full since `word` is too long
      have hfilled := ih hword.begun hrest
      rw [hword.splitOn_eq_singleton] at hfilled
      have hnil : [] ∉ splitOn ' ' line ++ word :: ws := by
        rw [List.mem_append, not_or]
        exact ⟨hline.nil_not_mem, nil_not_mem_of_forall_isWord hws⟩
      refine (filled_cons_iff hnil).mpr ⟨hline.length_le, word :: ws, rfl, ?_, hfilled⟩
      simpa using hroom

theorem filled_wrap (size : Nat) (t : Text) : Filled size (words t) (wrap size t) := by
  have hwords : ∀ word ∈ words t, word.IsWord := fun word => isWord_of_mem_words
  rw [wrap]
  cases hcase : words t with
  | nil => exact filled_nil_iff.mpr rfl
  | cons word ws =>
    rw [hcase] at hwords
    obtain ⟨hword, hrest⟩ := List.forall_mem_cons.mp hwords
    have hfilled : Filled size (splitOn ' ' word ++ ws) (wrapWords size word ws) :=
      filled_wrapWords hword.begun hrest
    rwa [hword.splitOn_eq_singleton] at hfilled

/-! ### No other lines -/

/-- If there is no room behind `s` for the first of the words that follow, no line that may stand
has the words of `s` and some of these. -/
theorem eq_nil_of_splitOn_eq_append {more : List Text} (ht : t.length ≤ size ∨ t.IsWord)
    (hmore : splitOn ' ' t = splitOn ' ' s ++ more)
    (hroom : ∀ word ∈ (more ++ rest).head?, size < (s ++ ' ' :: word).length) : more = [] := by
  cases more with
  | nil => rfl
  | cons word more =>
    obtain ⟨tail, rfl⟩ := exists_eq_append_of_splitOn_eq hmore
    have hlong : size < (s ++ ' ' :: word).length := hroom word rfl
    rcases ht with hlength | hsingle
    · simp only [List.length_append, List.length_cons] at hlong hlength
      omega
    · exact absurd (by simp) hsingle.2

/-- Two lines that take their words from the front of the same words are equal, if neither is too
long and neither has room for its next word. -/
theorem eq_of_splitOn_append_eq {rest' : List Text} (hs : s.length ≤ size ∨ s.IsWord)
    (ht : t.length ≤ size ∨ t.IsWord)
    (hsroom : ∀ word ∈ rest.head?, size < (s ++ ' ' :: word).length)
    (htroom : ∀ word ∈ rest'.head?, size < (t ++ ' ' :: word).length)
    (h : splitOn ' ' s ++ rest = splitOn ' ' t ++ rest') : s = t ∧ rest = rest' := by
  -- one of the lines has all words of the other, and then `more`
  rcases List.append_eq_append_iff.mp h with ⟨more, hmore, rfl⟩ | ⟨more, hmore, rfl⟩
  · obtain rfl := eq_nil_of_splitOn_eq_append ht hmore hsroom
    rw [List.append_nil] at hmore
    exact ⟨splitOn_injective ' ' hmore.symm, rfl⟩
  · obtain rfl := eq_nil_of_splitOn_eq_append hs hmore htroom
    rw [List.append_nil] at hmore
    exact ⟨splitOn_injective ' ' hmore, rfl⟩

theorem Filled.unique {lines' : List Text} (hws : [] ∉ ws) (h : Filled size ws lines)
    (h' : Filled size ws lines') : lines = lines' := by
  induction lines generalizing ws lines' with
  | nil =>
    obtain rfl := filled_nil_iff.mp h
    cases lines' with
    | nil => rfl
    | cons line' lines' =>
      have hnone := h'.pieces_eq
      simp at hnone
  | cons line lines ih =>
    obtain ⟨hline, rest, rfl, hroom, hrest⟩ := (filled_cons_iff hws).mp h
    cases lines' with
    | nil =>
      have hnone := filled_nil_iff.mp h'
      simp at hnone
    | cons line' lines' =>
      obtain ⟨hline', rest', hsame, hroom', hrest'⟩ := (filled_cons_iff hws).mp h'
      -- the same words are left behind the first line, and the rest is a matter of `ih`
      obtain ⟨rfl, rfl⟩ := eq_of_splitOn_append_eq hline hline' hroom hroom' hsame
      have hnil : [] ∉ rest := fun hmem => hws (List.mem_append_right _ hmem)
      rw [ih hnil hrest hrest']

/-- The lines that a text is wrapped to are, cut at the spaces, its words in order; a line is no
longer than `size` unless it is a single word; and with a space and the first word of the next line
each would be longer. These are the only such lines, whatever the size and the words are. -/
theorem eq_wrap_iff_filled (size : Nat) (t : Text) (lines : List Text) :
    lines = wrap size t ↔ Filled size (words t) lines := by
  constructor
  · rintro rfl
    exact filled_wrap size t
  · intro h
    have hnil : [] ∉ words t := nil_not_mem_of_forall_isWord fun word => isWord_of_mem_words
    exact h.unique hnil (filled_wrap size t)

/-- A word that is longer than a line has a line of its own, and all words have with size 0. -/
example : wrap 4 " a  wordy b c".toList = ["a".toList, "wordy".toList, "b c".toList] ∧
    wrap 0 "a b".toList = ["a".toList, "b".toList] := by
  decide

end Text

end LineEditor
