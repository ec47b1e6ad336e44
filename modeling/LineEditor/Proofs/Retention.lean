import LineEditor.History.File
import LineEditor.Proofs.Frame
import Mathlib.Data.List.Destutter
import Mathlib.Data.List.DropRight

/-!
# What a history keeps

A history leaves out two things. A push is left out when it repeats the newest entry, and the oldest
entries are left out when there is no room for them. The two do not meet: what is pushed is compared
with the newest entry, room is made at the other end, and there is always room for one. So the
entries can be told from the pushes alone, whatever else was done with the history in between.

## Main definitions

* `HistoryOp` are the operations of a history, and `History.run` carries out several.
* `History.pushed` are the texts that were pushed since the entries were last forgotten.
* `History.latest` are the last few of some texts, where a repetition does not count.
* `History.Keeps` — the entries are the latest of some texts.

## Main results

* `History.latest_concat` — one more text is compared with the newest of those that are kept.
* `History.Keeps.run` — what a history keeps after any operations.
* `History.entries_eq_latest` — what a new history keeps, and one that is opened from a file.
-/

namespace LineEditor

/-! ### Collapsing repetitions -/

section Destutter

variable {α : Type} [DecidableEq α]

/-- Collapsing from `a` on, a member at the end goes exactly if it repeats the one before it. -/
theorem destutter'_concat_ne (l : List α) (a b : α) :
    (l ++ [b]).destutter' (· ≠ ·) a =
      if (a :: l).getLast? = some b then l.destutter' (· ≠ ·) a
      else l.destutter' (· ≠ ·) a ++ [b] := by
  induction l generalizing a with
  | nil => by_cases h : a = b <;> simp [h]
  | cons c l ih =>
    rw [List.cons_append, List.getLast?_cons_cons]
    by_cases hac : a = c
    · -- `c` repeats `a`, and collapsing goes on from `a`
      subst hac
      rw [List.destutter'_cons_neg _ (not_not.mpr rfl),
        List.destutter'_cons_neg _ (not_not.mpr rfl)]
      exact ih a
    · rw [List.destutter'_cons_pos _ hac, List.destutter'_cons_pos _ hac, ih c]
      split
      · rfl
      · rfl

/-- A member at the end goes exactly if it repeats the one before it. -/
theorem destutter_concat_ne (l : List α) (b : α) :
    (l ++ [b]).destutter (· ≠ ·) =
      if l.getLast? = some b then l.destutter (· ≠ ·) else l.destutter (· ≠ ·) ++ [b] := by
  cases l with
  | nil => rfl
  | cons a l => exact destutter'_concat_ne l a b

/-- Collapsing repetitions keeps the last member. -/
theorem getLast?_destutter_ne (l : List α) : (l.destutter (· ≠ ·)).getLast? = l.getLast? := by
  induction l using List.reverseRecOn with
  | nil => rfl
  | append_singleton l b ih =>
    rw [destutter_concat_ne, List.getLast?_concat]
    split
    · next hrepeats => rw [ih, hrepeats]
    · rw [List.getLast?_concat]

end Destutter

/-! ### The last few members -/

section Rtake

variable {α : Type}

theorem getLast?_rtake {n : Nat} (hn : 1 ≤ n) (l : List α) : (l.rtake n).getLast? = l.getLast? := by
  rw [List.rtake, List.getLast?_drop]
  split
  · next hle =>
    have hnil : l = [] := List.length_eq_zero_iff.mp (by omega)
    rw [hnil]
    rfl
  · rfl

theorem length_rtake_le (n : Nat) (l : List α) : (l.rtake n).length ≤ n := by
  rw [List.rtake, List.length_drop]
  omega

theorem rtake_of_length_le {n : Nat} {l : List α} (h : l.length ≤ n) : l.rtake n = l := by
  rw [List.rtake, Nat.sub_eq_zero_of_le h, List.drop_zero]

/-- Of the last few members with one more at the end, the last few are those of the whole list. -/
theorem rtake_rtake_concat {n : Nat} (hn : 1 ≤ n) (l : List α) (b : α) :
    (l.rtake n ++ [b]).rtake n = (l ++ [b]).rtake n := by
  obtain ⟨m, rfl⟩ := Nat.exists_eq_succ_of_ne_zero (Nat.one_le_iff_ne_zero.mp hn)
  rw [List.rtake_concat_succ, List.rtake_concat_succ]
  have hdrop : (l.rtake (m + 1)).rtake m = l.rtake m := by
    rw [List.rtake, List.rtake, List.rtake, List.drop_drop, List.length_drop]
    congr 1
    omega
  rw [hdrop]

end Rtake

/-- What may be done with a history. -/
inductive HistoryOp
  | push (entry : Text)
  | get (index : Nat)
  | previous
  | next
  | search (term : Text)
  | setDraft (line : Text)
  | setDirection (direction : SearchDirection)
  | setEnabled (on : Bool)
  | clear
  deriving DecidableEq, Repr

namespace History

/-- Carries out an operation, and gives the text that it finds. -/
def perform (h : History) : HistoryOp → History × Option Text
  | .push entry => (h.push entry, none)
  | .get index => (h, h.get? index)
  | .previous => h.previous
  | .next => h.next
  | .search term => h.search term
  | .setDraft line => (h.setDraft line, none)
  | .setDirection direction => ({ h with direction }, none)
  | .setEnabled on => ({ h with enabled := on }, none)
  | .clear => (h.clear, none)

/-- Carries out several operations. -/
def run (h : History) (ops : List HistoryOp) : History :=
  ops.foldl (fun h op => (h.perform op).1) h

/-- The texts that count as pushed after one more operation. -/
def pushedBy (texts : List Text) : HistoryOp → List Text
  | .push entry => texts ++ [entry]
  | .clear => []
  | _ => texts

/-- The texts that were pushed since the entries were last forgotten, behind those that count as
pushed from the start. -/
def pushed (texts : List Text) (ops : List HistoryOp) : List Text :=
  ops.foldl pushedBy texts

/-- The last few of some texts, where a text that repeats the one before it does not count. -/
def latest (capacity : Nat) (texts : List Text) : List Text :=
  (texts.destutter (· ≠ ·)).rtake capacity

/-- The history keeps the latest of some texts, as many as it has room for. -/
structure Keeps (h : History) (capacity : Nat) (texts : List Text) : Prop where
  capacity_eq : h.capacity = capacity
  entries_eq : h.entries = latest capacity texts

variable {h : History} {capacity : Nat} {texts : List Text}

@[simp]
theorem latest_nil (capacity : Nat) : latest capacity [] = [] := by
  rw [latest, List.destutter_nil, List.rtake_nil]

theorem length_latest_le (capacity : Nat) (texts : List Text) :
    (latest capacity texts).length ≤ capacity :=
  length_rtake_le _ _

theorem sublist_latest (capacity : Nat) (texts : List Text) :
    (latest capacity texts).Sublist texts :=
  (List.drop_sublist _ _).trans (List.destutter_sublist _ _)

/-- No text of the latest ones repeats the one before it. -/
theorem isChain_latest (capacity : Nat) (texts : List Text) :
    (latest capacity texts).IsChain (· ≠ ·) :=
  (List.isChain_destutter _ _).drop _

theorem getLast?_latest (hc : 1 ≤ capacity) (texts : List Text) :
    (latest capacity texts).getLast? = texts.getLast? := by
  rw [latest, getLast?_rtake hc, getLast?_destutter_ne]

/-- One more text is compared with the newest of those that are kept, and what has no room goes at
the other end. -/
theorem latest_concat (hc : 1 ≤ capacity) (texts : List Text) (text : Text) :
    latest capacity (texts ++ [text]) =
      if (latest capacity texts).getLast? = some text then latest capacity texts
      else keepNewest capacity (latest capacity texts ++ [text]) := by
  rw [getLast?_latest hc, latest, destutter_concat_ne]
  split
  · rfl
  · exact (rtake_rtake_concat hc _ text).symm

/-- Texts that fit, none of which repeats the one before it, are the latest of themselves. -/
theorem latest_eq_self (hlength : texts.length ≤ capacity) (hchain : texts.IsChain (· ≠ ·)) :
    latest capacity texts = texts := by
  rw [latest, List.destutter_of_isChain _ _ hchain, rtake_of_length_le hlength]

/-! ### One operation, and several -/

theorem Keeps.push (hkeeps : h.Keeps capacity texts) (hc : 1 ≤ capacity) (text : Text) :
    (h.push text).Keeps capacity (texts ++ [text]) := by
  obtain ⟨rfl, hentries⟩ := hkeeps
  refine ⟨rfl, ?_⟩
  rw [latest_concat hc, ← hentries]
  rfl

/-- What is kept does not depend on the positions in the history. -/
theorem Keeps.of_stored_eq {h' : History} (hkeeps : h.Keeps capacity texts)
    (hstored : h'.stored = h.stored) : h'.Keeps capacity texts := by
  have hcapacity : h'.capacity = h.capacity := (congrArg History.capacity hstored :)
  have hentries : h'.entries = h.entries := (congrArg History.entries hstored :)
  exact ⟨hcapacity.trans hkeeps.capacity_eq, hentries.trans hkeeps.entries_eq⟩

/-- An operation adds what it pushes, and changes nothing else about what is kept. -/
theorem Keeps.perform (hkeeps : h.Keeps capacity texts) (hc : 1 ≤ capacity) (op : HistoryOp) :
    (h.perform op).1.Keeps capacity (pushedBy texts op) := by
  cases op with
  | push entry => exact hkeeps.push hc entry
  | get index => exact hkeeps
  | previous => exact hkeeps.of_stored_eq h.stored_previous
  | next => exact hkeeps.of_stored_eq h.stored_next
  | search term => exact hkeeps.of_stored_eq (h.stored_search term)
  | setDraft line => exact hkeeps.of_stored_eq rfl
  | setDirection direction => exact hkeeps.of_stored_eq rfl
  | setEnabled on => exact ⟨hkeeps.capacity_eq, hkeeps.entries_eq⟩
  | clear => exact ⟨hkeeps.capacity_eq, (latest_nil capacity).symm⟩

/-- What a history keeps after any operations. -/
theorem Keeps.run (hkeeps : h.Keeps capacity texts) (hc : 1 ≤ capacity) (ops : List HistoryOp) :
    (h.run ops).Keeps capacity (pushed texts ops) := by
  induction ops generalizing h texts with
  | nil => exact hkeeps
  | cons op rest ih => exact ih (hkeeps.perform hc op)

theorem file_perform (h : History) (op : HistoryOp) : (h.perform op).1.file = h.file := by
  cases op with
  | previous => exact (congrArg History.file h.stored_previous :)
  | next => exact (congrArg History.file h.stored_next :)
  | search term => exact (congrArg History.file (h.stored_search term) :)
  | _ => rfl

/-- A history stays with its file. -/
theorem file_run (h : History) (ops : List HistoryOp) : (h.run ops).file = h.file := by
  induction ops generalizing h with
  | nil => rfl
  | cons op rest ih => exact (ih _).trans (h.file_perform op)

/-! ### Where a history begins -/

theorem create_eq_ok (hc : 1 ≤ capacity) : create capacity = .ok { capacity } := by
  rw [create, if_neg (by omega)]

theorem keeps_new (capacity : Nat) (file : Option HistoryFile) :
    History.Keeps { capacity, file } capacity [] :=
  ⟨rfl, (latest_nil capacity).symm⟩

/-- Reading a file pushes one entry after the other. -/
theorem foldl_push_eq_run (h : History) (texts : List Text) :
    texts.foldl push h = h.run (texts.map .push) := by
  rw [run, List.foldl_map]
  rfl

theorem pushed_map_push (texts more : List Text) :
    pushed texts (more.map .push) = texts ++ more := by
  induction more generalizing texts with
  | nil => exact (List.append_nil texts).symm
  | cons text more ih =>
    rw [List.map_cons, pushed, List.foldl_cons]
    exact (ih _).trans (List.append_cons texts text more).symm

/-- A history that is opened from a file that can be read keeps the latest of its lines, except for
empty ones, and stays with the file. -/
theorem openFile_of_readText_eq_ok {fs : FileSystem} {path : FilePath} {text : Text}
    (hc : 1 ≤ capacity) (hread : fs.readText path = .ok text) (permission : FilePermission) :
    ∃ h, openFile fs path capacity permission = .ok h ∧ h.file = some ⟨path, permission⟩ ∧
      h.Keeps capacity ((Text.lines text).filter (!·.isEmpty)) := by
  have hopen : openFile fs path capacity permission =
      .ok ((entriesOfText text).foldl push { capacity, file := some ⟨path, permission⟩ }) := by
    rw [openFile, create_eq_ok hc]
    simp only [hread]
  refine ⟨_, hopen, ?_, ?_⟩
  · rw [foldl_push_eq_run, file_run]
  · have hkeeps := (keeps_new capacity (some ⟨path, permission⟩)).run hc
      ((entriesOfText text).map .push)
    rw [pushed_map_push, List.nil_append] at hkeeps
    rw [foldl_push_eq_run]
    exact hkeeps

/-- After any operations a new history holds the last few of the texts that were pushed since it was
last cleared, where a text that repeats the one before it does not count; there are never more of
them than it has room for, and no two neighbours are equal. A history that is opened from a file
holds the last few of the lines of the file in the same way, except for empty ones, and goes on from
there. -/
theorem entries_eq_latest (capacity : Nat) (hc : 1 ≤ capacity) (ops : List HistoryOp) :
    (∃ h, create capacity = .ok h ∧
      (h.run ops).entries = ((pushed [] ops).destutter (· ≠ ·)).rtake capacity ∧
      (h.run ops).size ≤ capacity ∧ (h.run ops).entries.IsChain (· ≠ ·)) ∧
    ∀ (fs : FileSystem) (path : FilePath) (permission : FilePermission) (text : Text),
      fs.readText path = .ok text →
        ∃ h, openFile fs path capacity permission = .ok h ∧
          h.entries =
            (((Text.lines text).filter (!·.isEmpty)).destutter (· ≠ ·)).rtake capacity ∧
          (h.run ops).entries =
            ((pushed ((Text.lines text).filter (!·.isEmpty)) ops).destutter (· ≠ ·)).rtake
              capacity := by
  constructor
  · have hkeeps := (keeps_new capacity none).run hc ops
    refine ⟨_, create_eq_ok hc, hkeeps.entries_eq, ?_, ?_⟩
    · rw [size, hkeeps.entries_eq]
      exact length_latest_le _ _
    · rw [hkeeps.entries_eq]
      exact isChain_latest _ _
  · intro fs path permission text hread
    obtain ⟨h, hopen, -, hkeeps⟩ := openFile_of_readText_eq_ok hc hread permission
    exact ⟨h, hopen, hkeeps.entries_eq, (hkeeps.run hc ops).entries_eq⟩

/-- Room for two entries: of four texts that differ from the one before them the last two are kept,
though one was pushed twice and the history was stepped through and searched in between. Of a file
with four lines, one of which is empty, the last two are. -/
theorem entries_eq_latest_two :
    let ops : List HistoryOp := [.push ['a'], .push ['a'], .previous, .push ['b'], .search ['a'],
      .push ['c'], .setDraft ['x'], .previous, .push ['d']]
    let fs : FileSystem := FileSystem.place {} [['h']] 0o600 (Utf8.encode "1\n2\n\n3\n".toList)
    1 ≤ 2 ∧ fs.readText [['h']] = .ok "1\n2\n\n3\n".toList ∧
      (∃ h, create 2 = .ok h ∧ (h.run ops).entries = [['c'], ['d']]) ∧
      ∃ h, openFile fs [['h']] 2 {} = .ok h ∧ h.entries = [['2'], ['3']] := by
  intro ops fs
  have hread : fs.readText [['h']] = .ok "1\n2\n\n3\n".toList := by rfl
  obtain ⟨⟨h, hcreate, hentries, -⟩, hfile⟩ := entries_eq_latest 2 (by decide) ops
  obtain ⟨f, hopen, hlines, -⟩ := hfile fs [['h']] {} _ hread
  refine ⟨by decide, hread, ⟨h, hcreate, ?_⟩, f, hopen, ?_⟩
  · rw [hentries]
    decide
  · rw [hlines]
    decide

end History

end LineEditor
