import LineEditor.Proofs.Continuation

/-!
# What trimming leaves of a line

A line is trimmed before it is told whether it goes on, but it is the line itself that is folded
into the entry. Both have to end in the same backslashes. White space at the end of a line is
removed from right to left, one character at a time, and only the one character before it is looked
at. Where that is a backslash the white space stays, and since a backslash is no white space, it
stays itself. So trimming never uncovers a backslash, and what it has left it leaves again.

## Main definitions

* `Text.Trimmed` — there is nothing left for trimming to remove.

## Main results

* `Text.trimmed_trim` and `Text.Trimmed.trim_eq` — trimming ends in such a text, and keeps it.
* `Text.exists_eq_append_trim_append` — what is removed at both ends.
* `Text.backslashRun_eq_iff` — the backslashes at the end of a text.
* `Text.trim_keeps_end` — all of this for one line, and what it means for Enter.
-/

namespace LineEditor

namespace Text

/-- There is nothing to trim: the text does not begin with white space, and white space at its end
has a backslash directly before it. -/
structure Trimmed (t : Text) : Prop where
  start : ∀ c rest, t = c :: rest → Unicode.isBlank c = false
  finish : ∀ rest c, t = rest ++ [c] → Unicode.isBlank c = true → rest.getLast? = some '\\'

variable {t : Text}

/-! ### The end of a text -/

/-- A text written backwards keeps white space in front only before a backslash. -/
theorem head?_of_dropUnescapedBlanks_eq {c : Char} {rest : Text}
    (h : dropUnescapedBlanks t = c :: rest) (hc : Unicode.isBlank c = true) :
    rest.head? = some '\\' := by
  induction t using dropUnescapedBlanks.induct with
  | case1 => simp [dropUnescapedBlanks] at h
  | case2 d hblank => simp [dropUnescapedBlanks, hblank] at h
  | case3 d hblank =>
    rw [dropUnescapedBlanks, if_neg hblank] at h
    obtain ⟨rfl, -⟩ := List.cons.inj h
    contradiction
  | case4 d d' more hdrop ih =>
    rw [dropUnescapedBlanks, if_pos hdrop] at h
    exact ih h
  | case5 d d' more hkeep =>
    rw [dropUnescapedBlanks, if_neg hkeep] at h
    obtain ⟨rfl, rfl⟩ := List.cons.inj h
    simpa [hc] using hkeep

theorem dropUnescapedBlanks_eq_self
    (h : ∀ c rest, t = c :: rest → Unicode.isBlank c = true → rest.head? = some '\\') :
    dropUnescapedBlanks t = t := by
  match t with
  | [] => rfl
  | [c] =>
    have hc : Unicode.isBlank c ≠ true := fun hblank => nomatch h c [] rfl hblank
    rw [dropUnescapedBlanks, if_neg hc]
  | c :: d :: rest =>
    have hkeep : ¬(Unicode.isBlank c && d != '\\') = true := by
      intro hdrop
      obtain ⟨hblank, hd⟩ := Bool.and_eq_true_iff.mp hdrop
      have hhead : some d = some '\\' := h c (d :: rest) rfl hblank
      simp [Option.some.inj hhead] at hd
    rw [dropUnescapedBlanks, if_neg hkeep]

/-- From a text written backwards only white space is removed, and none that has a backslash
directly behind it. -/
theorem exists_eq_append_dropUnescapedBlanks (t : Text) :
    ∃ removed, t = removed ++ dropUnescapedBlanks t ∧ (∀ c ∈ removed, Unicode.isBlank c = true) ∧
      ∀ after c before, removed = after ++ c :: before →
        (before ++ dropUnescapedBlanks t).head? ≠ some '\\' := by
  induction t using dropUnescapedBlanks.induct with
  | case1 => exact ⟨[], rfl, by simp, by simp⟩
  | case2 c hblank =>
    have hempty : dropUnescapedBlanks [c] = [] := if_pos hblank
    refine ⟨[c], by rw [hempty, List.append_nil], by simpa using hblank, ?_⟩
    intro after d before hsplit
    have hbefore : before = [] := by
      have hparts : after = [] ∧ d = c ∧ before = [] := by
        simpa using List.append_eq_singleton_iff.mp hsplit.symm
      exact hparts.2.2
    rw [hempty, hbefore]
    simp
  | case3 c hblank =>
    have heq : dropUnescapedBlanks [c] = [c] := if_neg hblank
    exact ⟨[], heq.symm, by simp, by simp⟩
  | case4 c d rest hdrop ih =>
    -- `c` goes, since `d` directly behind it is no backslash; the rest is a matter of `ih`
    obtain ⟨hblank, hd⟩ := Bool.and_eq_true_iff.mp hdrop
    obtain ⟨removed, hrest, hremoved, hbehind⟩ := ih
    have heq : dropUnescapedBlanks (c :: d :: rest) = dropUnescapedBlanks (d :: rest) :=
      if_pos hdrop
    rw [heq]
    refine ⟨c :: removed, congrArg (c :: ·) hrest, by simpa using ⟨hblank, hremoved⟩, ?_⟩
    intro after e before hsplit
    cases after with
    | nil =>
      obtain ⟨rfl, rfl⟩ := List.cons.inj hsplit
      rw [← hrest]
      simpa using hd
    | cons a after => exact hbehind after e before (List.cons.inj hsplit).2
  | case5 c d rest hkeep =>
    have heq : dropUnescapedBlanks (c :: d :: rest) = c :: d :: rest := if_neg hkeep
    exact ⟨[], heq.symm, by simp, by simp⟩

/-! ### Both ends -/

theorem trimmed_trim (t : Text) : (trim t).Trimmed where
  start := by
    intro c rest htrim
    have hhead : (trimStart t).head? = some c := by
      rw [← head?_trim, htrim]
      rfl
    have hnot := List.head?_dropWhile_not Unicode.isBlank t
    rw [← trimStart, hhead] at hnot
    simpa using hnot
  finish := by
    intro rest c htrim hc
    have hdrop : dropUnescapedBlanks (trimStart t).reverse = c :: rest.reverse := by
      rw [← List.reverse_inj, ← trim, htrim]
      simp
    rw [List.getLast?_eq_head?_reverse]
    exact head?_of_dropUnescapedBlanks_eq hdrop hc

theorem Trimmed.trim_eq (h : t.Trimmed) : trim t = t := by
  have hstart : trimStart t = t := by
    cases t with
    | nil => rfl
    | cons c rest => exact List.dropWhile_cons_of_neg (by simp [h.start c rest rfl])
  have hfinish : dropUnescapedBlanks t.reverse = t.reverse := by
    apply dropUnescapedBlanks_eq_self
    intro c rest hrev hc
    have ht : t = rest.reverse ++ [c] := by simpa using congrArg List.reverse hrev
    rw [← List.getLast?_reverse]
    exact h.finish rest.reverse c ht hc
  rw [trim, hstart, hfinish, List.reverse_reverse]

/-- Only white space is removed, and at the end none that has a backslash directly before it. -/
theorem exists_eq_append_trim_append (t : Text) :
    ∃ front back, t = front ++ trim t ++ back ∧ (∀ c ∈ front, Unicode.isBlank c = true) ∧
      (∀ c ∈ back, Unicode.isBlank c = true) ∧
      ∀ before c after, back = before ++ c :: after →
        (front ++ trim t ++ before).getLast? ≠ some '\\' := by
  obtain ⟨removed, hremoved, hblank, hbehind⟩ :=
    exists_eq_append_dropUnescapedBlanks (trimStart t).reverse
  have hfront : ∀ c ∈ t.takeWhile Unicode.isBlank, Unicode.isBlank c = true :=
    List.all_eq_true.mp List.all_takeWhile
  have hstart : trimStart t = trim t ++ removed.reverse := by
    rw [← List.reverse_inj, hremoved, trim]
    simp
  refine ⟨t.takeWhile Unicode.isBlank, removed.reverse, ?_, hfront, by simpa using hblank, ?_⟩
  · rw [List.append_assoc, ← hstart, trimStart, List.takeWhile_append_dropWhile]
  · intro before c after hback
    have hsplit : removed = after.reverse ++ c :: before.reverse := by
      rw [← List.reverse_inj, hback]
      simp
    have hkept : (trim t ++ before).getLast? ≠ some '\\' := by
      rw [List.getLast?_eq_head?_reverse, trim, List.reverse_append, List.reverse_reverse]
      exact hbehind _ _ _ hsplit
    rw [List.append_assoc, List.getLast?_append]
    intro hlast
    rcases Option.or_eq_some_iff.mp hlast with hlast | ⟨-, hlast⟩
    · exact hkept hlast
    · -- nothing but white space stands before the character
      exact ne_backslash_of_isBlank (hfront _ (List.mem_of_getLast? hlast)) rfl

/-! ### The backslashes at the end -/

theorem backslashRun_append_replicate (s : Text) (n : Nat) :
    backslashRun (s ++ List.replicate n '\\') = n + backslashRun s := by
  rw [backslashRun, List.reverse_append, List.reverse_replicate,
    List.takeWhile_append_of_pos (by simp), List.length_append, List.length_replicate]
  rfl

theorem exists_eq_append_replicate (t : Text) :
    ∃ s, t = s ++ List.replicate t.backslashRun '\\' := by
  have hrun : t.reverse.takeWhile (· = '\\') = List.replicate t.backslashRun '\\' := by
    refine List.eq_replicate_iff.mpr ⟨rfl, fun c hc => ?_⟩
    simpa using List.all_eq_true.mp List.all_takeWhile c hc
  refine ⟨(t.reverse.dropWhile (· = '\\')).reverse, ?_⟩
  rw [← List.reverse_inj, List.reverse_append, List.reverse_reverse, List.reverse_replicate, ← hrun,
    List.takeWhile_append_dropWhile]

/-- The run of backslashes at the end goes back to the last character that is none. -/
theorem backslashRun_eq_iff {n : Nat} :
    t.backslashRun = n ↔ ∃ s, t = s ++ List.replicate n '\\' ∧ s.getLast? ≠ some '\\' := by
  constructor
  · rintro rfl
    obtain ⟨s, hs⟩ := exists_eq_append_replicate t
    refine ⟨s, hs, ?_⟩
    have hrun := backslashRun_append_replicate s t.backslashRun
    rw [← hs] at hrun
    exact (backslashRun_eq_zero_iff s).mp (by omega)
  · rintro ⟨s, rfl, hlast⟩
    rw [backslashRun_append_replicate, (backslashRun_eq_zero_iff s).mpr hlast, Nat.add_zero]

theorem endsInEscape_trim_iff (t : Text) :
    (trim t).endsInEscape = true ↔
      ∃ s n, t = s ++ List.replicate n '\\' ∧ s.getLast? ≠ some '\\' ∧ n % 2 = 1 := by
  rw [endsInEscape_trim, decide_eq_true_iff]
  constructor
  · intro hodd
    obtain ⟨s, hs, hlast⟩ := backslashRun_eq_iff.mp (rfl : t.backslashRun = _)
    exact ⟨s, _, hs, hlast, hodd⟩
  · rintro ⟨s, n, hs, hlast, hodd⟩
    rwa [backslashRun_eq_iff.mpr ⟨s, hs, hlast⟩]

/-- Whether a line goes on is asked of the trimmed line, and the answer is right for the line: it
goes on if it ends in an odd number of backslashes. Such a line has no white space at its end, so
that Enter folds the line as it is. A trimmed line is trimmed for good. Trimming removes white space
only, and at the end none that has a backslash directly before it. -/
theorem trim_keeps_end (t : Text) :
    ((trim t).endsInEscape = true ↔
        ∃ s n, t = s ++ List.replicate n '\\' ∧ s.getLast? ≠ some '\\' ∧ n % 2 = 1) ∧
      ((trim t).endsInEscape = true →
        (∀ c, t.getLast? = some c → Unicode.isBlank c = false) ∧ trimEnd t = t ∧
          ∀ b : Buffer, b.line = t →
            ((b.replace (trimEnd b.line)).setMultiLine true).fold = (b.setMultiLine true).fold) ∧
      trim (trim t) = trim t ∧
      ∃ front back, t = front ++ trim t ++ back ∧ (∀ c ∈ front, Unicode.isBlank c = true) ∧
        (∀ c ∈ back, Unicode.isBlank c = true) ∧
        ∀ before c after, back = before ++ c :: after →
          (front ++ trim t ++ before).getLast? ≠ some '\\' := by
  refine ⟨endsInEscape_trim_iff t, ?_, (trimmed_trim t).trim_eq, exists_eq_append_trim_append t⟩
  intro hescape
  have hrun : t.backslashRun ≠ 0 := by
    rw [endsInEscape_trim, decide_eq_true_iff] at hescape
    omega
  have hend : trimEnd t = t := trimEnd_of_backslashRun_ne_zero hrun
  refine ⟨?_, hend, ?_⟩
  · intro c hc
    have hlast : t.getLast? = some '\\' :=
      Decidable.not_not.mp (mt (backslashRun_eq_zero_iff t).mpr hrun)
    obtain rfl : '\\' = c := Option.some.inj (hlast.symm.trans hc)
    exact not_isBlank_backslash
  · rintro b rfl
    rw [hend]
    rfl

/-- White space behind an escaped one is removed, and nothing comes of it for the line break. -/
example : trim " \\ a\\  ".toList = "\\ a\\ ".toList ∧
    (trim " a\\\\\\".toList).endsInEscape = true ∧ (trim "\\ ".toList).endsInEscape = false := by
  decide

end Text

end LineEditor
