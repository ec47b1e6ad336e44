import LineEditor.Proofs.Access.Completion
import LineEditor.Proofs.CommandLayer
import LineEditor.Proofs.TypedWord

/-!
# Completing the word before the cursor

A key completes the word before the cursor from one vocabulary. The words that start with what was
typed decide what happens, and what is inserted is only what was still missing.

To know what was typed, white space in front of the line is removed first, if the line starts with a
space. The line consists of spaces there, so that the word before the cursor stays what it is; but
once the start of a word has been inserted directly behind these spaces, it may bring other white
space, and this is then removed as well.

## Main definitions

* `Completer.hits` are the words of a vocabulary that start with a text.
* `Buffer.asked` is the word that completers are asked for.
* `Editor.CompletesFrom` — a key completes words of a vocabulary.
* `Editor.Lists` — words were listed below the line.
* `Buffer.TrimsAway` — a text that is inserted would be removed with the spaces in front of it.

## Main results

* `CompletionRequest.before_ofLine` — which text before the cursor a completer sees.
* `Editor.offer_of_one`, `Editor.offer_of_several` — what one word and what several lead to.
* `Editor.completes_take` — what the key inserts, and when it lists the words if pressed again.
-/

namespace LineEditor

namespace CompletionRequest

/-- The line of a request up to the cursor. -/
def before (r : CompletionRequest) : Text :=
  r.line.take r.cursor

/-- White space in front of a beginning of a text is that in front of the text, as far as it is
there. -/
theorem trimStart_take (line : Text) (cursor : Nat) :
    Text.trimStart (line.take cursor) =
      (Text.trimStart line).take (cursor - (line.takeWhile Unicode.isBlank).length) := by
  induction line generalizing cursor with
  | nil => simp [Text.trimStart]
  | cons c line ih =>
    cases cursor with
    | zero => simp [Text.trimStart]
    | succ cursor =>
      have hrest := ih cursor
      simp only [Text.trimStart, List.take_succ_cons, List.dropWhile_cons, List.takeWhile_cons]
        at hrest ⊢
      split
      · simpa using hrest
      · rfl

/-- A completer sees the line up to the cursor, without the white space in front if the line starts
with a space. -/
theorem before_ofLine (line : Text) (cursor : Nat) :
    (ofLine line cursor).before =
      if line.head? = some ' ' then Text.trimStart (line.take cursor) else line.take cursor := by
  rw [before, ofLine, trimStart_take, Access.length_takeWhile_eq_sub]
  split
  · rfl
  · rfl

/-- A request for a line has nothing but the line and the cursor. -/
theorem exists_ofLine_eq (line : Text) (cursor : Nat) :
    ∃ l c u, ofLine line cursor = { line := l, cursor := c, untrimmed := u } := by
  rw [ofLine]
  split
  · exact ⟨_, _, _, rfl⟩
  · exact ⟨_, _, _, rfl⟩

/-- A request is answered with words, of which a start was typed; the rest of them is to be escaped
and followed by a space. -/
structure Answered (r : CompletionRequest) (typed : Text) (words : List Text) : Prop where
  candidates : r.candidates = words
  formatted : r.formattedCandidates = words.map (·.drop typed.length)
  separator : r.separator = ' '
  appendSeparator : r.appendSeparator = true
  ignoreStartsWith : r.ignoreStartsWith = false
  ignoreUnescapedSpace : r.ignoreUnescapedSpace = false

end CompletionRequest

namespace Completer

/-- The words of a vocabulary that start with a text, each as often as it is there. -/
def hits (vocabulary : List Text) (typed : Text) : List Text :=
  vocabulary.filter (typed.isPrefixOf ·)

variable {vocabulary : List Text} {typed word : Text}

theorem mem_hits_iff : word ∈ hits vocabulary typed ↔ word ∈ vocabulary ∧ typed <+: word := by
  rw [hits, List.mem_filter, List.isPrefixOf_iff_prefix]

/-- The words that start with what others have in common are these others. -/
theorem hits_eq_of_isCommonStart {common : Text} (hlonger : typed <+: common)
    (h : Text.IsCommonStart common (hits vocabulary typed)) :
    hits vocabulary common = hits vocabulary typed := by
  refine List.filter_congr fun word hmem => Bool.eq_iff_iff.mpr ?_
  rw [List.isPrefixOf_iff_prefix, List.isPrefixOf_iff_prefix]
  exact ⟨hlonger.trans, fun htyped => h.isStart word (mem_hits_iff.mpr ⟨hmem, htyped⟩)⟩

theorem wordList_eq_of_no_hits {r : CompletionRequest}
    (h : hits vocabulary (Text.typedWord r.before) = []) : wordList vocabulary r = r := by
  show (if (hits vocabulary (Text.typedWord r.before)).isEmpty then r else _) = r
  rw [h]
  rfl

theorem wordList_eq_of_hits {r : CompletionRequest}
    (h : hits vocabulary (Text.typedWord r.before) ≠ []) :
    wordList vocabulary r =
      { r with offset := r.cursor - (Text.typedWord r.before).length }.addCandidates
        (hits vocabulary (Text.typedWord r.before)) := by
  show (if (hits vocabulary (Text.typedWord r.before)).isEmpty then r else _) = _
  rw [if_neg (mt List.isEmpty_iff.mp h)]
  rfl

/-- A vocabulary answers with the words that start with what was typed. -/
theorem answered_wordList {line : Text} {cursor : Nat}
    (h : hits vocabulary (Text.typedWord (CompletionRequest.ofLine line cursor).before) ≠ []) :
    (wordList vocabulary (.ofLine line cursor)).Answered
      (Text.typedWord (CompletionRequest.ofLine line cursor).before)
      (hits vocabulary (Text.typedWord (CompletionRequest.ofLine line cursor).before)) := by
  have htyped : (Text.typedWord (CompletionRequest.ofLine line cursor).before).length ≤
      (CompletionRequest.ofLine line cursor).cursor := length_typed_le _
  rw [wordList_eq_of_hits h]
  obtain ⟨l, c, u, heq⟩ := CompletionRequest.exists_ofLine_eq line cursor
  rw [heq] at htyped ⊢
  refine ⟨rfl, ?_, rfl, rfl, rfl, rfl⟩
  dsimp only [CompletionRequest.formattedCandidates, CompletionRequest.addCandidates,
    CompletionRequest.typedLength] at htyped ⊢
  rw [if_neg Bool.false_ne_true, Nat.sub_sub_self htyped, List.nil_append]

theorem firstAnswer?_singleton (completer : Completer) (line : Text) (cursor : Nat) :
    firstAnswer? [completer] line cursor =
      if (completer (.ofLine line cursor)).candidates = [] then none
      else some (completer (.ofLine line cursor)) := by
  rw [firstAnswer?, List.map_singleton, List.find?_singleton]
  cases (completer (.ofLine line cursor)).candidates with
  | nil => rfl
  | cons word rest => rfl

end Completer

namespace Buffer

/-- The line up to the cursor. -/
def before (b : Buffer) : Text :=
  b.line.take b.cursor

/-- The word that completers are asked for. -/
def asked (b : Buffer) : Text :=
  Text.typedWord (CompletionRequest.ofLine b.line b.cursor).before

/-- In front of the cursor there are only spaces, at least one, and the text begins with white space
other than that. -/
def TrimsAway (b : Buffer) (t : Text) : Prop :=
  b.before ≠ [] ∧ (∀ c ∈ b.before, c = ' ') ∧
    ∃ c ∈ t.head?, Unicode.isBlank c = true ∧ c ≠ ' '

variable {b : Buffer} {t : Text}

theorem before_insert (h : b.CursorInLine) (t : Text) : (b.insert t).before = b.before ++ t := by
  have hlength : (b.line.take b.cursor).length = b.cursor := List.length_take_of_le h
  rw [before, insert, before]
  dsimp only
  rw [List.take_append_of_le_length (by simp [hlength]), List.take_of_length_le (by simp [hlength])]

/-- Completers are asked for the word before the cursor if the line does not start with a space, or
no white space other than spaces is removed in front of it. -/
theorem asked_eq (h : b.line.head? = some ' ' → ∀ c ∈ b.before.takeWhile Unicode.isBlank, c = ' ') :
    b.asked = Text.typedWord b.before := by
  rw [asked, CompletionRequest.before_ofLine]
  split
  · next hspace => exact Text.typedWord_trimStart (h hspace)
  · rfl

theorem eq_space_of_mem_takeWhile (h : ∀ c ∈ b.line, Unicode.isBlank c = true → c = ' ') :
    ∀ c ∈ b.before.takeWhile Unicode.isBlank, c = ' ' := by
  intro c hmem
  have hline : c ∈ b.line := List.mem_of_mem_take ((List.takeWhile_sublist _).subset hmem)
  exact h c hline (List.mem_takeWhile_imp hmem)

theorem asked_eq_of_spaces (h : ∀ c ∈ b.line, Unicode.isBlank c = true → c = ' ') :
    b.asked = Text.typedWord b.before :=
  asked_eq fun _ => eq_space_of_mem_takeWhile h

theorem insert_ne (b : Buffer) (h : t ≠ []) : b.insert t ≠ b := by
  intro heq
  have hcursor : b.cursor + t.length = b.cursor := congrArg Buffer.cursor heq
  have hlength := List.length_pos_iff.mpr h
  omega

theorem line_insert (b : Buffer) (t : Text) :
    (b.insert t).line = b.before ++ t ++ b.line.drop b.cursor := rfl

section Insert

variable {rest : Text} (hcursor : b.CursorInLine)

include hcursor

/-- Once the rest of a word has been inserted, it is the whole word that is asked for, unless its
start is removed with the spaces in front of it. -/
theorem asked_insert (hblanks : ∀ c ∈ b.line, Unicode.isBlank c = true → c = ' ')
    (hrest : rest ≠ []) (hkept : ¬b.TrimsAway (Text.typedWord b.before ++ rest)) :
    (b.insert (Text.escapeSpaces rest)).asked = Text.typedWord b.before ++ rest := by
  rw [← Text.typedWord_append_escapeSpaces, ← before_insert hcursor]
  refine asked_eq fun hspace => ?_
  rw [before_insert hcursor]
  refine Text.eq_space_of_mem_takeWhile_append (eq_space_of_mem_takeWhile hblanks) ?_
  intro hall c hc hblank
  have hspaces : ∀ c ∈ b.before, c = ' ' := fun c hmem =>
    hblanks c (List.mem_of_mem_take hmem) (hall c hmem)
  by_contra hother
  refine hkept ⟨?_, hspaces, c, ?_, hblank, hother⟩
  · -- at the start of the line the escaped text would come first, and it begins with no space
    intro hnil
    have hfirst := Text.head?_escapeSpaces_ne rest
    obtain ⟨d, more, hmore⟩ :=
      List.exists_cons_of_ne_nil (mt Text.escapeSpaces_eq_nil_iff.mp hrest)
    rw [line_insert, hnil, hmore] at hspace
    rw [hmore] at hfirst
    exact hfirst hspace
  · rw [Text.typedWord_eq_nil_of_spaces hspaces]
    exact hc

/-- White space at the start of a word is not asked for once it is removed with the spaces in front
of it. -/
theorem asked_insert_of_trimsAway (h : b.TrimsAway rest) :
    (b.insert (Text.escapeSpaces rest)).asked =
      rest.dropWhile fun c => Unicode.isBlank c && c != ' ' := by
  obtain ⟨hne, hspaces, -⟩ := h
  have hspace : (b.insert (Text.escapeSpaces rest)).line.head? = some ' ' := by
    obtain ⟨c, more, hmore⟩ := List.exists_cons_of_ne_nil hne
    rw [line_insert, hmore]
    exact congrArg some (hspaces c (hmore ▸ List.mem_cons_self))
  have hblank : ∀ c ∈ b.before, Unicode.isBlank c = true := fun c hc =>
    hspaces c hc ▸ Unicode.isBlank_space
  rw [asked, CompletionRequest.before_ofLine, if_pos hspace]
  show Text.typedWord (Text.trimStart (b.insert (Text.escapeSpaces rest)).before) = _
  rw [before_insert hcursor, Text.trimStart, List.dropWhile_append_of_pos hblank]
  show Text.typedWord (Text.trimStart (Text.escapeSpaces rest)) = _
  rw [Text.trimStart_escapeSpaces]
  exact Text.typedWord_append_escapeSpaces [] _

end Insert

end Buffer

namespace Editor

/-- The text that lists words below the line. -/
def listing (e : Editor) (words : List Text) : Text :=
  lineBreak ++ (Text.lines (Screen.compactGrid words e.width)).flatMap (· ++ lineBreak)

/-- The second editor came from the first one by listing words below the line: the line has stayed
and is drawn anew under them. -/
structure Lists (e f : Editor) (words : List Text) : Prop where
  buffer : f.buffer = e.buffer
  output : f.console.output = e.console.output ++ e.listing words ++ e.buffer.drawing

/-- A unit of input completes the word before the cursor from one vocabulary. -/
structure CompletesFrom (e : Editor) (vocabulary : List Text) (tab : Token) : Prop where
  completers : e.completers = [Completer.wordList vocabulary]
  action : e.action? tab = some .complete
  cursor : e.buffer.CursorInLine

variable {e : Editor} {vocabulary : List Text} {tab : Token} {word rest : Text}

/-! ### What the words lead to -/

theorem offer_of_one {r : CompletionRequest} {typed : Text} (h : r.Answered typed [word]) :
    e.offer r =
      e.onConsole (·.insertDiscrete (Text.escapeSpaces (word.drop typed.length) ++ [' '])) := by
  obtain ⟨-, hformatted, hseparator, happend, -, hescape⟩ := h
  rw [offer, hformatted]
  simp [insertedForm, hseparator, happend, hescape]

theorem offer_of_several {r : CompletionRequest} {typed : Text} {words : List Text}
    (h : r.Answered typed words) (hseveral : 2 ≤ words.length)
    (hcommon : Text.IsCommonStart (typed ++ rest) words) :
    e.offer r =
      if rest = [] then e.listCandidates words
      else e.onConsole (·.insertDiscrete (Text.escapeSpaces rest)) := by
  obtain ⟨hcandidates, hformatted, -, -, hstarts, hescape⟩ := h
  have hne : words ≠ [] := List.ne_nil_of_length_pos (Nat.zero_lt_of_lt hseveral)
  have hrest := Text.commonStart_drop_eq hne hcommon
  have hsize : r.formattedCandidates.length = words.length := by rw [hformatted, List.length_map]
  rw [offer]
  split
  · next only honly =>
    rw [honly] at hsize
    have hone : 1 = words.length := hsize
    omega
  · rw [hstarts, if_neg Bool.false_ne_true, hformatted, hrest, hcandidates]
    dsimp only
    rw [insertedForm, hescape, if_neg Bool.false_ne_true]
    simp only [List.isEmpty_iff]

section Complete

variable (hcompleters : e.completers = [Completer.wordList vocabulary])

include hcompleters

theorem complete_eq_of_no_hits (h : Completer.hits vocabulary e.buffer.asked = []) :
    e.complete = (e, false) := by
  obtain ⟨l, c, u, heq⟩ := CompletionRequest.exists_ofLine_eq e.buffer.line e.buffer.cursor
  have hnone : Completer.firstAnswer? e.completers e.buffer.line e.buffer.cursor = none := by
    rw [hcompleters, Completer.firstAnswer?_singleton, Completer.wordList_eq_of_no_hits h, heq,
      if_pos rfl]
  rw [complete, hnone]

theorem exists_complete_eq (h : Completer.hits vocabulary e.buffer.asked ≠ []) :
    ∃ r, r.Answered e.buffer.asked (Completer.hits vocabulary e.buffer.asked) ∧
      e.complete = (e.offer r, true) := by
  have hanswered := Completer.answered_wordList h
  refine ⟨_, hanswered, ?_⟩
  have hcandidates := hanswered.candidates
  rw [complete, hcompleters, Completer.firstAnswer?_singleton, if_neg (hcandidates ▸ h)]

end Complete

section Take

variable (hfrom : e.CompletesFrom vocabulary tab)

include hfrom

omit hfrom in
theorem layer_settle (outcome : Outcome) : (settle outcome).layer = outcome.1.layer := by
  rw [settle]
  split
  · rfl
  · rfl

theorem take_eq_settle : e.take tab = settle (e.prepare .complete).complete := by
  rw [take_of_action?_eq_some hfrom.action, perform]
  rfl

/-- Where no word starts with what was typed, the line and the output stay. -/
theorem take_of_no_hits (h : Completer.hits vocabulary e.buffer.asked = []) :
    e.take tab = e.prepare .complete := by
  rw [take_eq_settle hfrom, complete_eq_of_no_hits (e := e.prepare .complete) hfrom.completers h]
  rfl

/-- The only word that starts with what was typed is finished, and a space is put behind it. -/
theorem buffer_take_of_one (h : Completer.hits vocabulary e.buffer.asked = [word]) :
    (e.take tab).buffer =
      e.buffer.insert (Text.escapeSpaces (word.drop e.buffer.asked.length) ++ [' ']) := by
  obtain ⟨r, hanswered, hcomplete⟩ := exists_complete_eq (e := e.prepare .complete)
    hfrom.completers (h.trans_ne (List.cons_ne_nil _ _))
  have hone : r.Answered e.buffer.asked [word] := h ▸ hanswered
  rw [take_eq_settle hfrom, hcomplete, buffer_settle, offer_of_one hone]
  exact Console.buffer_insertDiscrete _ _

section Several

variable (hseveral : 2 ≤ (Completer.hits vocabulary e.buffer.asked).length)

include hseveral

theorem take_of_several
    (hcommon : Text.IsCommonStart (e.buffer.asked ++ rest)
      (Completer.hits vocabulary e.buffer.asked)) :
    e.take tab =
      settle (
        if rest = [] then
          (e.prepare .complete).listCandidates (Completer.hits vocabulary e.buffer.asked)
        else
          (e.prepare .complete).onConsole (·.insertDiscrete (Text.escapeSpaces rest)),
        true) := by
  obtain ⟨r, hanswered, hcomplete⟩ := exists_complete_eq (e := e.prepare .complete)
    hfrom.completers (List.ne_nil_of_length_pos (Nat.zero_lt_of_lt hseveral))
  rw [take_eq_settle hfrom, hcomplete, offer_of_several hanswered hseveral hcommon]
  rfl

/-- Several words that have nothing in common but what was typed are listed. -/
theorem lists_take
    (hcommon : Text.IsCommonStart e.buffer.asked (Completer.hits vocabulary e.buffer.asked)) :
    e.Lists (e.take tab) (Completer.hits vocabulary e.buffer.asked) := by
  have hnothing : Text.IsCommonStart (e.buffer.asked ++ [])
      (Completer.hits vocabulary e.buffer.asked) := (List.append_nil e.buffer.asked).symm ▸ hcommon
  rw [take_of_several hfrom hseveral hnothing, if_pos rfl]
  refine ⟨rfl, ?_⟩
  rw [settle, if_pos rfl, listCandidates]
  dsimp only [onConsole]
  rw [Console.output_draw, Console.output_write, Console.output_write, listing]
  simp only [List.append_assoc]
  rfl

/-- What several words have in common is finished. -/
theorem buffer_take_of_several
    (hcommon : Text.IsCommonStart (e.buffer.asked ++ rest)
      (Completer.hits vocabulary e.buffer.asked)) (hrest : rest ≠ []) :
    (e.take tab).buffer = e.buffer.insert (Text.escapeSpaces rest) := by
  rw [take_of_several hfrom hseveral hcommon, if_neg hrest, buffer_settle]
  exact Console.buffer_insertDiscrete _ _

end Several

/-- The same unit of input completes words of the same vocabulary again. -/
theorem completesFrom_take : (e.take tab).CompletesFrom vocabulary tab := by
  have hedit : e.Edited (e.take tab) := by
    refine edited_take fun action haction => ?_
    obtain rfl := Option.some.inj (hfrom.action.symm.trans haction)
    exact ⟨Action.noConfusion, rfl⟩
  have hlayer : (e.take tab).layer = e.layer := by
    rw [take_eq_settle hfrom, layer_settle]
    exact layer_complete (e := e.prepare .complete)
  refine ⟨?_, ?_, cursorInLine_take hfrom.cursor⟩
  · rw [hedit.rest]
    exact hfrom.completers
  · have hkeymap : (e.take tab).keymap = e.keymap := (congrArg Editor.keymap hedit.rest :)
    have hsame : (e.take tab).action? tab = e.action? tab := by
      cases tab with
      | key k => rw [action?, action?, hkeymap, hlayer]
      | paste t => rfl
    exact hsame.trans hfrom.action

end Take

/-! ### Pressed twice -/

theorem not_lists_prepare (e : Editor) (action : Action) (words : List Text) :
    ¬e.Lists (e.prepare action) words := by
  intro hlists
  -- a listing begins with a line break at least
  have houtput : e.console.output = e.console.output ++ e.listing words ++ e.buffer.drawing :=
    hlists.output
  have hlength := congrArg List.length houtput
  have hlistingLength : 2 ≤ (e.listing words).length := by
    rw [listing, List.length_append]
    exact Nat.le_add_right 2 _
  simp only [List.length_append] at hlength
  omega

/-- Where several words begin with white space that is not asked for, they are not listed: nothing
starts with what is asked for, or else it is nothing, and what they have in common is inserted. -/
theorem not_lists_take (hfrom : e.CompletesFrom vocabulary tab) {b : Buffer}
    (htrims : b.TrimsAway rest) (hseveral : 2 ≤ (Completer.hits vocabulary []).length)
    (hcommon : Text.IsCommonStart rest (Completer.hits vocabulary []))
    (hasked : e.buffer.asked = rest.dropWhile fun c => Unicode.isBlank c && c != ' ')
    {words : List Text} : ¬e.Lists (e.take tab) words := by
  obtain ⟨-, -, c, hhead, hblank, hother⟩ := htrims
  -- a word that starts with what is asked for starts with the white space as well
  by_cases hnone : Completer.hits vocabulary e.buffer.asked = []
  · rw [take_of_no_hits hfrom hnone]
    exact not_lists_prepare e .complete words
  · obtain ⟨word, hmem⟩ := List.exists_mem_of_ne_nil _ hnone
    obtain ⟨hword, hstart⟩ := Completer.mem_hits_iff.mp hmem
    have hnothing : e.buffer.asked = [] := by
      rw [hasked] at hstart ⊢
      refine Text.dropWhile_eq_nil_of_isStart hhead (by simp [hblank, hother]) ?_ hstart
      exact hcommon.isStart word (Completer.mem_hits_iff.mpr ⟨hword, List.nil_prefix⟩)
    have hrest : rest ≠ [] := by
      rintro rfl
      contradiction
    have hinserted : (e.take tab).buffer = e.buffer.insert (Text.escapeSpaces rest) :=
      buffer_take_of_several hfrom (hnothing ▸ hseveral) (hnothing ▸ hcommon) hrest
    intro hlists
    rw [hlists.buffer] at hinserted
    exact Buffer.insert_ne _ (mt Text.escapeSpaces_eq_nil_iff.mp hrest) hinserted.symm

/-- When the same unit of input comes again behind what several words have in common, the words are
listed, unless the start of what they have in common is removed with the spaces in front of it. -/
theorem lists_take_take_iff (hfrom : e.CompletesFrom vocabulary tab)
    (hblanks : ∀ c ∈ e.buffer.line, Unicode.isBlank c = true → c = ' ')
    (hseveral : 2 ≤ (Completer.hits vocabulary (Text.typedWord e.buffer.before)).length)
    (hcommon : Text.IsCommonStart (Text.typedWord e.buffer.before ++ rest)
      (Completer.hits vocabulary (Text.typedWord e.buffer.before))) (hrest : rest ≠ []) :
    (e.take tab).Lists ((e.take tab).take tab)
        (Completer.hits vocabulary (Text.typedWord e.buffer.before)) ↔
      ¬e.buffer.TrimsAway (Text.typedWord e.buffer.before ++ rest) := by
  have hasked := Buffer.asked_eq_of_spaces hblanks
  have hagain := completesFrom_take hfrom
  have hbuffer : (e.take tab).buffer = e.buffer.insert (Text.escapeSpaces rest) :=
    buffer_take_of_several hfrom (hasked ▸ hseveral) (hasked ▸ hcommon) hrest
  constructor
  · intro hlists htrims
    rw [Text.typedWord_eq_nil_of_spaces htrims.2.1] at hseveral hcommon hlists htrims
    rw [List.nil_append] at hcommon htrims
    have hasked' : (e.take tab).buffer.asked =
        rest.dropWhile fun c => Unicode.isBlank c && c != ' ' := by
      rw [hbuffer]
      exact Buffer.asked_insert_of_trimsAway hfrom.cursor htrims
    exact not_lists_take hagain htrims hseveral hcommon hasked' hlists
  · intro hkept
    have hasked' : (e.take tab).buffer.asked = Text.typedWord e.buffer.before ++ rest := by
      rw [hbuffer]
      exact Buffer.asked_insert hfrom.cursor hblanks hrest hkept
    have hhits : Completer.hits vocabulary (e.take tab).buffer.asked =
        Completer.hits vocabulary (Text.typedWord e.buffer.before) := by
      rw [hasked']
      exact Completer.hits_eq_of_isCommonStart (List.prefix_append _ rest) hcommon
    rw [← hhits] at hseveral hcommon ⊢
    rw [← hasked'] at hcommon
    exact lists_take hagain hseveral hcommon

/-! ### Everything that the key does -/

/-- A unit of input that completes the word before the cursor, on a line without white space other
than spaces, does nothing where no word of the vocabulary starts with what was typed. The only word
that does is finished, with a space behind it; of several, what they have in common is finished, and
when there is nothing to be finished they are listed. They are also listed when the same unit comes
again, except that the start of what they have in common may have been removed with the spaces in
front of it. -/
theorem completes_take (hfrom : e.CompletesFrom vocabulary tab)
    (hblanks : ∀ c ∈ e.buffer.line, Unicode.isBlank c = true → c = ' ') :
    let typed := Text.typedWord e.buffer.before
    let hits := Completer.hits vocabulary typed
    let f := e.take tab
    (hits = [] → f.buffer = e.buffer ∧ f.console.output = e.console.output) ∧
      (∀ word, hits = [word] → ∃ rest, word = typed ++ rest ∧
        f.buffer = e.buffer.insert (Text.escapeSpaces rest ++ [' ']) ∧
        Text.typedWord f.buffer.before.dropLast = word) ∧
      (2 ≤ hits.length → ∃ rest, Text.IsCommonStart (typed ++ rest) hits ∧
        (rest = [] → e.Lists f hits) ∧
        (rest ≠ [] → f.buffer = e.buffer.insert (Text.escapeSpaces rest) ∧
          Text.typedWord f.buffer.before = typed ++ rest ∧
          (f.Lists (f.take tab) hits ↔ ¬e.buffer.TrimsAway (typed ++ rest)))) := by
  intro typed hits f
  have hasked : e.buffer.asked = typed := Buffer.asked_eq_of_spaces hblanks
  have hhits : Completer.hits vocabulary e.buffer.asked = hits := congrArg _ hasked
  refine ⟨?_, ?_, ?_⟩
  · intro hnone
    have hprepare : f = e.prepare .complete := take_of_no_hits hfrom (hhits.trans hnone)
    rw [hprepare]
    exact ⟨rfl, rfl⟩
  · intro word hone
    have hmem : word ∈ hits := hone ▸ List.mem_singleton_self word
    obtain ⟨rest, rfl⟩ := (Completer.mem_hits_iff.mp hmem).2
    have hbuffer : f.buffer = e.buffer.insert (Text.escapeSpaces rest ++ [' ']) := by
      have htaken := buffer_take_of_one hfrom (hhits.trans hone)
      rwa [hasked, List.drop_left] at htaken
    refine ⟨rest, rfl, hbuffer, ?_⟩
    rw [hbuffer, Buffer.before_insert hfrom.cursor, ← List.append_assoc, List.dropLast_concat,
      Text.typedWord_append_escapeSpaces]
  · intro hseveral
    have hne : hits ≠ [] := List.ne_nil_of_length_pos (Nat.zero_lt_of_lt hseveral)
    have hcommon := Text.isCommonStart_commonStart hne
    obtain ⟨rest, hrest⟩ := hcommon.longest typed fun word hmem =>
      (Completer.mem_hits_iff.mp hmem).2
    rw [← hrest] at hcommon
    refine ⟨rest, hcommon, ?_, ?_⟩
    · rintro rfl
      rw [List.append_nil, ← hasked, ← hhits] at hcommon
      have hlists := lists_take hfrom (hhits ▸ hseveral) hcommon
      rwa [hhits] at hlists
    · intro hsome
      have hbuffer : f.buffer = e.buffer.insert (Text.escapeSpaces rest) :=
        buffer_take_of_several hfrom (hhits ▸ hseveral) (hhits.symm ▸ hasked.symm ▸ hcommon) hsome
      refine ⟨hbuffer, ?_, lists_take_take_iff hfrom hblanks hseveral hcommon hsome⟩
      rw [hbuffer, Buffer.before_insert hfrom.cursor, Text.typedWord_append_escapeSpaces]

/-- Two words go on in the same way, with a space that is escaped. They are listed when the key
comes again. -/
theorem completes_take_up_to_where_words_differ :
    let vocabulary : List Text := [['f', ' ', 'a'], ['x'], ['f', ' ', 'b']]
    let e : Editor := { Editor.new {} { capacity := 50 } (.ofMode .emacs) .enabled with
      completers := [Completer.wordList vocabulary] }.takes (typed "f")
    let tab : Token := .key (.plain .tab)
    let f := e.take tab
    e.CompletesFrom vocabulary tab ∧
      (∀ c ∈ e.buffer.line, Unicode.isBlank c = true → c = ' ') ∧
      f.buffer.line = ['f', '\\', ' '] ∧
      f.Lists (f.take tab) [['f', ' ', 'a'], ['f', ' ', 'b']] := by
  intro vocabulary e tab f
  have hline : e.buffer.line = ['f'] := by decide
  have hbefore : e.buffer.before = ['f'] := by decide
  have hfrom : e.CompletesFrom vocabulary tab := ⟨rfl, by decide, by decide⟩
  have hblanks : ∀ c ∈ e.buffer.line, Unicode.isBlank c = true → c = ' ' := by
    intro c hmem hblank
    rw [hline] at hmem
    obtain rfl := List.mem_singleton.mp hmem
    exact absurd hblank (by decide)
  have hall := (completes_take hfrom hblanks).2.2
  have htyped : Text.typedWord ['f'] = ['f'] := by decide
  have hhits : Completer.hits vocabulary ['f'] = [['f', ' ', 'a'], ['f', ' ', 'b']] := by decide
  rw [hbefore, htyped, hhits] at hall
  obtain ⟨rest, hcommon, -, hmore⟩ := hall (by decide)
  have hlongest : Text.IsCommonStart (Text.commonStart [['f', ' ', 'a'], ['f', ' ', 'b']])
      [['f', ' ', 'a'], ['f', ' ', 'b']] := Text.isCommonStart_commonStart (List.cons_ne_nil _ _)
  have hwhole : ['f'] ++ rest = ['f', ' '] := hcommon.unique hlongest
  obtain rfl : rest = [' '] := List.append_cancel_left hwhole
  obtain ⟨-, -, htwice⟩ := hmore (List.cons_ne_nil _ _)
  refine ⟨hfrom, hblanks, by decide, htwice.mpr ?_⟩
  rintro ⟨-, hspaces, -⟩
  rw [hbefore] at hspaces
  exact absurd (hspaces 'f' List.mem_cons_self) (by decide)

/-- Behind a space the words begin with a tab character. It is inserted, then removed again with the
space in front of it, and so the key inserts it once more and lists nothing. -/
theorem not_lists_behind_space :
    let vocabulary : List Text := [['\t', 'a'], ['\t', 'b']]
    let e : Editor := { Editor.new {} { capacity := 50 } (.ofMode .emacs) .enabled with
      completers := [Completer.wordList vocabulary] }.takes (typed " ")
    let tab : Token := .key (.plain .tab)
    let f := e.take tab
    e.CompletesFrom vocabulary tab ∧ e.buffer.line = [' '] ∧
      Completer.hits vocabulary (Text.typedWord e.buffer.before) = vocabulary ∧
      f.buffer.line = [' ', '\t'] ∧ (f.take tab).buffer.line = [' ', '\t', '\t'] ∧
      ¬f.Lists (f.take tab) vocabulary := by
  intro vocabulary e tab f
  have hagain : (f.take tab).buffer.line = [' ', '\t', '\t'] := by decide
  have honce : f.buffer.line = [' ', '\t'] := by decide
  refine ⟨⟨rfl, by decide, by decide⟩, by decide, by decide, honce, hagain, ?_⟩
  intro hlists
  have hsame := congrArg Buffer.line hlists.buffer
  rw [hagain, honce] at hsame
  exact absurd hsame (by decide)

end Editor

end LineEditor
