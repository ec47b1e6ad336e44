import LineEditor.Proofs.Turn

/-!
# Where a drawn line leaves the cursor

A line is drawn as a whole, and then the terminal's cursor goes back over what stands behind the
cursor of the buffer. How far it goes is told from the cells of the line and the columns in front of
the cursor. Without a mask both are measured in cells. Under a glyph the line is as many copies of
it as there are characters: its cells are measured, but the columns in front of the cursor are the
number of characters. Both agree exactly if so many copies of the glyph take one cell each.

The copies of most characters stand alone, but some join one another: marks, joiners, signs that are
prepended, and letters of Hangul syllables, of which any number makes one cluster. Regional
indicators join in pairs, and a pair takes two cells.

## Main definitions

* `Unicode.BreakClass.clings` — copies of a character join into one cluster.
* `Screen.OneCellEach` — so many copies of a glyph take as many cells.
* `Buffer.MaskCountsCells` — the mask, if it is a glyph, takes one cell for each character in front
  of the cursor.

## Main results

* `Screen.visibleWidth_replicate_eq_iff` — how many copies of a glyph take as many cells.
* `Console.draw_places_cursor_iff` — where drawing leaves the cursor of the terminal.
-/

namespace LineEditor

open Unicode (BreakClass breakClass cellWidth)

/-- Any number of characters of this class makes one cluster. -/
def Unicode.BreakClass.clings : BreakClass → Bool
  | .extend | .nonJoiner | .joiner | .linker | .spacing | .prepend => true
  | .hangulL | .hangulV | .hangulT => true
  | _ => false

namespace Screen

/-- So many copies of a glyph take as many cells. One copy does if it takes a cell. Of several, each
one takes a cell, or else all of them join into one cluster that takes as many cells. -/
def OneCellEach (g : Char) : Nat → Prop
  | 0 => True
  | 1 => clusterWidth [g] = 1
  | n + 2 => if (breakClass g).clings then clusterWidth [g, g] = n + 2 else clusterWidth [g] = 1

variable {g : Char}

/-! ### Clusters of copies -/

theorem stripEscapes_replicate (g : Char) (n : Nat) :
    stripEscapes (List.replicate n g) = List.replicate n g := by
  by_cases hg : g = escape
  · -- an escape character starts no sequence with another one
    subst hg
    induction n with
    | zero => exact stripEscapes_nil
    | succ n ih =>
      have hnone : sequenceRest? (List.replicate n escape) = none := by
        cases n with
        | zero => rfl
        | succ n => rfl
      rw [List.replicate_succ, stripEscapes, if_pos rfl]
      split
      · next after hafter =>
        rw [hnone] at hafter
        contradiction
      · rw [ih]
  · exact stripEscapes_of_no_escape fun hmem => hg (List.eq_of_mem_replicate hmem).symm

/-- Behind a character of the same class only its class tells whether a cluster ends, unless it is a
regional indicator. -/
theorem breaksBefore_next (x : ClusterContext) {b : BreakClass} (hb : b ≠ .regional) :
    (x.next b).breaksBefore b = !b.clings := by
  cases b with
  | regional => contradiction
  | _ => rfl

/-- A regional indicator behind others ends the cluster if they make pairs. -/
theorem breaksBefore_next_regional (x : ClusterContext) :
    (x.next .regional).breaksBefore .regional = x.oddRegional := by
  obtain ⟨last, conjunct, pictograph, odd⟩ := x
  cases odd with
  | true => rfl
  | false => rfl

theorem clustersFrom_replicate_of_clings (hg : (breakClass g).clings = true) (x : ClusterContext)
    (current : Text) (n : Nat) :
    clustersFrom (x.next (breakClass g)) current (List.replicate n g) =
      [current ++ List.replicate n g] := by
  have hb : breakClass g ≠ .regional := by
    intro hregional
    rw [hregional] at hg
    contradiction
  induction n generalizing x current with
  | zero => simp [clustersFrom]
  | succ n ih =>
    have hjoins : (x.next (breakClass g)).breaksBefore (breakClass g) = false := by
      rw [breaksBefore_next x hb, hg]
      rfl
    rw [List.replicate_succ, clustersFrom]
    simp only [hjoins, Bool.false_eq_true, if_false]
    rw [ih, List.append_assoc]
    rfl

theorem clustersFrom_replicate_of_not_clings (hg : (breakClass g).clings = false)
    (hb : breakClass g ≠ .regional) (x : ClusterContext) (current : Text) (n : Nat) :
    clustersFrom (x.next (breakClass g)) current (List.replicate n g) =
      current :: List.replicate n [g] := by
  induction n generalizing x current with
  | zero => rfl
  | succ n ih =>
    have hbreaks : (x.next (breakClass g)).breaksBefore (breakClass g) = true := by
      rw [breaksBefore_next x hb, hg]
      rfl
    rw [List.replicate_succ, clustersFrom]
    simp only [hbreaks, if_true]
    rw [ih, List.replicate_succ]

/-! ### Regional indicators -/

theorem isRegional_iff : isRegional g = true ↔ 0x1F1E6 ≤ g.toNat ∧ g.toNat ≤ 0x1F1FF := by
  simp [isRegional]

/-- A set of code points with no edge among the regional indicators holds all of them or none. -/
theorem contains_of_isRegional (h : isRegional g = true) {r : Unicode.Ranges}
    (hedges : ∀ edge ∈ r.edges, edge ≤ 0x1F1E6 ∨ 0x1F1FF < edge) :
    r.contains g = Unicode.Ranges.inside r.edges 0x1F1E6 := by
  have hrange := isRegional_iff.mp h
  rw [Unicode.Ranges.contains]
  generalize r.edges = edges at hedges ⊢
  induction edges with
  | nil => rfl
  | cons edge rest ih =>
    obtain ⟨hedge, hrest⟩ := List.forall_mem_cons.mp hedges
    have hbelow : g.toNat < edge ↔ 0x1F1E6 < edge := by omega
    simp only [Unicode.Ranges.inside, hbelow, ih hrest]

open Unicode in
/-- The sets that are asked for a regional indicator hold none. -/
theorem not_contains_of_isRegional (h : isRegional g = true) {r : Ranges}
    (hr : r ∈ [controls, extenders, linkers, consonants, invisible, wide]) :
    r.contains g = false := by
  have hall : ∀ r ∈ [controls, extenders, linkers, consonants, invisible, wide],
      (∀ edge ∈ r.edges, edge ≤ 0x1F1E6 ∨ 0x1F1FF < edge) ∧
        Ranges.inside r.edges 0x1F1E6 = false := by
    decide +kernel
  rw [contains_of_isRegional h (hall r hr).1, (hall r hr).2]

open Unicode in
theorem breakClass_of_isRegional (h : isRegional g = true) : breakClass g = .regional := by
  have hrange := isRegional_iff.mp h
  have hcontrols : controls.contains g = false := not_contains_of_isRegional h (by simp)
  have hextenders : extenders.contains g = false := not_contains_of_isRegional h (by simp)
  have hlinkers : linkers.contains g = false := not_contains_of_isRegional h (by simp)
  have hconsonants : consonants.contains g = false := not_contains_of_isRegional h (by simp)
  rw [breakClass, if_neg (by omega), breakClassBeyondAscii]
  simp only [hcontrols, hextenders, hlinkers, hconsonants, Bool.false_eq_true, if_false]
  rw [if_neg (by omega), if_neg (by omega), if_pos hrange]

open Unicode in
theorem clusterWidth_of_isRegional (h : isRegional g = true) : clusterWidth [g] = 1 := by
  have hrange := isRegional_iff.mp h
  have hinvisible : invisible.contains g = false := not_contains_of_isRegional h (by simp)
  have hwide : wide.contains g = false := not_contains_of_isRegional h (by simp)
  have hpictograph : isPictograph g = false := by
    simp [isPictograph]
    omega
  have hcontrol : isControl g = false := by
    simp [isControl]
    omega
  rw [clusterWidth, hpictograph, if_neg Bool.false_ne_true, cellWidth]
  simp only [hinvisible, hwide, hcontrol, Bool.false_eq_true, if_false]
  rw [if_neg (by omega), if_neg (by omega), if_neg (by omega)]

theorem ite_ne {α : Type} {p : Prop} [Decidable p] {a b r : α} (ha : a ≠ r) (hb : b ≠ r) :
    (if p then a else b) ≠ r := by
  split
  · exact ha
  · exact hb

theorem breakClass_ne_regional (h : isRegional g = false) : breakClass g ≠ .regional := by
  have hrange : ¬(0x1F1E6 ≤ g.toNat ∧ g.toNat ≤ 0x1F1FF) := by
    rw [← isRegional_iff, h]
    exact Bool.false_ne_true
  have hbeyond : Unicode.breakClassBeyondAscii g ≠ .regional := by
    rw [Unicode.breakClassBeyondAscii, Unicode.hangulSyllableClass]
    simp only [hrange, if_false]
    -- no other branch gives this class
    repeat' apply ite_ne
    all_goals decide
  rw [breakClass]
  refine ite_ne (ite_ne ?_ (ite_ne ?_ (ite_ne ?_ ?_))) hbeyond
  all_goals decide

theorem isRegional_eq_false_of_clings (h : (breakClass g).clings = true) :
    isRegional g = false := by
  refine Bool.eq_false_iff.mpr fun hregional => ?_
  rw [breakClass_of_isRegional hregional] at h
  contradiction

theorem clusterWidth_pair_of_isRegional (h : isRegional g = true) : clusterWidth [g, g] = 2 := by
  have hemoji : isEmoji [g, g] = true := by simp [isEmoji, h]
  rw [clusterWidth, hemoji]
  rfl

/-- Regional indicators join in pairs, and a pair takes as many cells as its members would. -/
theorem foldr_clustersFrom_replicate_of_isRegional (h : isRegional g = true) (x : ClusterContext)
    (n : Nat) :
    (clustersFrom (x.next (breakClass g)) (if x.oddRegional then [g, g] else [g])
      (List.replicate n g)).foldr (clusterWidth · + ·) 0 =
        (if x.oddRegional then 2 else 1) + n := by
  have hb := breakClass_of_isRegional h
  have hone := clusterWidth_of_isRegional h
  have htwo := clusterWidth_pair_of_isRegional h
  rw [hb]
  induction n generalizing x with
  | zero => cases hodd : x.oddRegional <;> simp [clustersFrom, hone, htwo]
  | succ n ih =>
    have hnext : (x.next .regional).oddRegional = !x.oddRegional := by
      simp [ClusterContext.next]
    have hrest := ih (x.next .regional)
    rw [hnext] at hrest
    rw [List.replicate_succ, clustersFrom, hb, breaksBefore_next_regional]
    cases hodd : x.oddRegional with
    | true =>
      -- the pair is complete, and the next one begins
      rw [hodd] at hrest
      change clusterWidth [g, g] + (clustersFrom _ [g] _).foldr _ 0 = 2 + (n + 1)
      change (clustersFrom _ [g] _).foldr _ 0 = 1 + n at hrest
      omega
    | false =>
      rw [hodd] at hrest
      change (clustersFrom _ [g, g] _).foldr _ 0 = 1 + (n + 1)
      change (clustersFrom _ [g, g] _).foldr _ 0 = 2 + n at hrest
      omega

/-! ### Copies in one cluster -/

theorem isEmoji_replicate (h : isRegional g = false) (n : Nat) :
    isEmoji (List.replicate (n + 1) g) = (asksForEmoji g && isPictograph g) := by
  have hflag : ((List.replicate (n + 1) g).countP isRegional == 2) = false := by
    simp [List.countP_replicate, h]
  have hjoined : ((List.replicate (n + 1) g).contains zeroWidthJoiner &&
      decide (2 ≤ (List.replicate (n + 1) g).countP isPictograph)) = false := by
    by_cases hg : g = zeroWidthJoiner
    · have hnot : isPictograph g = false := by
        rw [hg]
        decide
      simp [List.countP_replicate, hnot]
    · simp [Ne.symm hg]
  rw [isEmoji, hflag, hjoined, List.any_replicate, List.any_replicate]
  rfl

/-- In a cluster of two copies or more their number does not matter. -/
theorem clusterWidth_replicate (h : isRegional g = false) (n : Nat) :
    clusterWidth (List.replicate (n + 2) g) = clusterWidth [g, g] := by
  have hshape : ∀ n, clusterWidth (List.replicate (n + 2) g) =
      if isEmoji (List.replicate (n + 2) g) ||
        (List.replicate (n + 2) g).getLast? == some keycap then 2 else max (cellWidth g) 1 :=
    fun n => rfl
  have hlast : ∀ n, (List.replicate (n + 2) g).getLast? = some g := by
    intro n
    simp [List.getLast?_replicate]
  have hpair : clusterWidth [g, g] = clusterWidth (List.replicate (0 + 2) g) := rfl
  rw [hpair, hshape, hshape, hlast, hlast, isEmoji_replicate h, isEmoji_replicate h]

/-! ### Cells of copies -/

theorem visibleWidth_replicate_succ (g : Char) (n : Nat) :
    visibleWidth (List.replicate (n + 1) g) =
      (clustersFrom (.start (breakClass g)) [g] (List.replicate n g)).foldr
        (clusterWidth · + ·) 0 := by
  rw [visibleWidth, stripEscapes_replicate]
  rfl

theorem visibleWidth_singleton (g : Char) : visibleWidth [g] = clusterWidth [g] :=
  visibleWidth_replicate_succ g 0

theorem visibleWidth_replicate_of_not_clings (hg : (breakClass g).clings = false)
    (hb : breakClass g ≠ .regional) (n : Nat) :
    visibleWidth (List.replicate n g) = n * clusterWidth [g] := by
  cases n with
  | zero => rw [List.replicate_zero, visibleWidth_nil, Nat.zero_mul]
  | succ n =>
    rw [visibleWidth_replicate_succ, ClusterContext.start,
      clustersFrom_replicate_of_not_clings hg hb, ← List.replicate_succ]
    induction n + 1 with
    | zero => simp
    | succ n ih => rw [List.replicate_succ, List.foldr_cons, ih, Nat.succ_mul, Nat.add_comm]

theorem visibleWidth_replicate_of_clings (hg : (breakClass g).clings = true) (n : Nat) :
    visibleWidth (List.replicate (n + 2) g) = clusterWidth [g, g] := by
  rw [visibleWidth_replicate_succ, ClusterContext.start, clustersFrom_replicate_of_clings hg]
  exact clusterWidth_replicate (isRegional_eq_false_of_clings hg) n

theorem visibleWidth_replicate_of_isRegional (h : isRegional g = true) (n : Nat) :
    visibleWidth (List.replicate n g) = n := by
  cases n with
  | zero => exact visibleWidth_nil
  | succ n =>
    rw [visibleWidth_replicate_succ, ClusterContext.start]
    have hpairs := foldr_clustersFrom_replicate_of_isRegional h ⟨.other, .idle, .idle, false⟩ n
    exact hpairs.trans (Nat.add_comm 1 n)

/-- How many copies of a glyph take as many cells. -/
theorem visibleWidth_replicate_eq_iff (g : Char) (n : Nat) :
    visibleWidth (List.replicate n g) = n ↔ OneCellEach g n := by
  match n with
  | 0 => exact iff_of_true visibleWidth_nil trivial
  | 1 => exact iff_of_eq (congrArg (· = 1) (visibleWidth_singleton g))
  | n + 2 =>
    rw [OneCellEach]
    cases hregional : isRegional g with
    | true =>
      -- these join too, but only in pairs, so that both sides always hold
      rw [breakClass_of_isRegional hregional, visibleWidth_replicate_of_isRegional hregional]
      exact iff_of_true rfl (clusterWidth_of_isRegional hregional)
    | false =>
      have hb := breakClass_ne_regional hregional
      cases hg : (breakClass g).clings with
      | true => rw [visibleWidth_replicate_of_clings hg, if_pos rfl]
      | false =>
        rw [visibleWidth_replicate_of_not_clings hg hb, if_neg Bool.false_ne_true]
        exact Nat.mul_eq_left (by omega)

/-- Copies of a printable ASCII character take one cell each, however many there are. -/
theorem oneCellEach_of_printable (h : ' ' ≤ g ∧ g ≤ '~') (n : Nat) : OneCellEach g n := by
  rw [← visibleWidth_replicate_eq_iff, visibleWidth_of_printable, List.length_replicate]
  intro c hc
  rwa [List.eq_of_mem_replicate hc]

end Screen

open Screen

namespace Buffer

/-- If a glyph is shown for each character, the ones in front of the cursor take one cell each. -/
def MaskCountsCells (b : Buffer) : Prop :=
  ∀ g, b.prompt.mask = some (.glyph g) → OneCellEach g b.cursor

theorem moveBack_inj {m n : Nat} : moveBack m = moveBack n ↔ m = n := by
  refine ⟨fun h => ?_, congrArg moveBack⟩
  by_cases hm : m = 0
  · by_cases hn : n = 0
    · rw [hm, hn]
    · simp [moveBack, hm, hn] at h
  · by_cases hn : n = 0
    · simp [moveBack, hm, hn] at h
    · have hdigits : Nat.toDigits 10 m = Nat.toDigits 10 n := by
        simpa [moveBack, hm, hn, Text.ofNat] using h
      calc m = Nat.ofDigitChars 10 (Nat.toDigits 10 m) 0 := Nat.ofDigitChars_ten_toDigits.symm
        _ = Nat.ofDigitChars 10 (Nat.toDigits 10 n) 0 := by rw [hdigits]
        _ = n := Nat.ofDigitChars_ten_toDigits

variable {b : Buffer}

/-- The columns in front of the cursor are the cells of what is shown there, if the mask counts
cells. -/
theorem displayCursor_eq_iff (hcursor : b.CursorInLine) :
    b.displayCursor = visibleWidth (b.visibleLine.take b.cursor) ↔ b.MaskCountsCells := by
  rw [displayCursor, visibleLine, MaskCountsCells]
  cases b.prompt.mask with
  | none => simp
  | some mask =>
    cases mask with
    | hidden => simp
    | glyph g =>
      -- as many copies as there are characters in front of the cursor, against their number
      have htake : (List.replicate b.line.length g).take b.cursor = List.replicate b.cursor g := by
        rw [List.take_replicate, Nat.min_eq_left hcursor]
      dsimp only
      rw [htake, eq_comm, visibleWidth_replicate_eq_iff]
      simp

/-- Two ways to go back over what stands behind a place agree if the places do, or if there is
nothing behind either. -/
theorem drawing_eq_iff {column : Nat} :
    b.drawing = clearRow ++ b.prompt.text ++ b.visibleLine ++
        moveBack (visibleWidth b.visibleLine - column) ↔
      b.displayCursor = column ∨
        visibleWidth b.visibleLine ≤ column ∧ visibleWidth b.visibleLine ≤ b.displayCursor := by
  rw [drawing, List.append_cancel_left_eq, moveBack_inj, tailWidth]
  omega

end Buffer

namespace Console

open Buffer

/-- Where drawing a line leaves the cursor. The columns in front of it are the cells of what is
shown there exactly if the mask counts cells. Then the cursor of the terminal goes back over the
cells that are behind it. If the mask does not count cells, it goes back as far only where no cell
is behind it and all cells together are no more than the columns. Without a mask printable ASCII
characters count one each. -/
theorem draw_places_cursor_iff (c : Console) (hcursor : c.buffer.CursorInLine)
    (hline : ∀ ch ∈ c.buffer.line, ' ' ≤ ch ∧ ch ≤ '~') :
    let b := c.buffer
    let total := visibleWidth b.visibleLine
    let before := visibleWidth (b.visibleLine.take b.cursor)
    (b.displayCursor = before ↔ b.MaskCountsCells) ∧
      (c.draw.output = c.output ++
          (clearRow ++ b.prompt.text ++ b.visibleLine ++ moveBack (total - before)) ↔
        b.MaskCountsCells ∨ total ≤ before ∧ total ≤ b.displayCursor) ∧
      (b.isMasked = false → before = b.cursor ∧ total = b.line.length) := by
  intro b total before
  have hcolumn : b.displayCursor = before ↔ b.MaskCountsCells := displayCursor_eq_iff hcursor
  refine ⟨hcolumn, ?_, ?_⟩
  · rw [output_draw, List.append_cancel_left_eq, ← hcolumn]
    exact drawing_eq_iff
  · intro hmask
    have hvisible : b.visibleLine = b.line := by
      have hnone : b.prompt.mask = none :=
        Option.isNone_iff_eq_none.mp (Option.isSome_eq_false_iff.mp hmask)
      rw [visibleLine, hnone]
    refine ⟨?_, ?_⟩
    · have hfront : ∀ ch ∈ b.line.take b.cursor, ' ' ≤ ch ∧ ch ≤ '~' :=
        fun ch hch => hline ch (List.mem_of_mem_take hch)
      show visibleWidth (b.visibleLine.take b.cursor) = b.cursor
      rw [hvisible, visibleWidth_of_printable hfront, List.length_take_of_le hcursor]
    · show visibleWidth b.visibleLine = b.line.length
      rw [hvisible, visibleWidth_of_printable hline]

/-- A line under asterisks, with the cursor in it. -/
theorem draw_places_cursor_iff_asterisks :
    let c : Console := { buffer := {
      line := ['a', 'b', 'c']
      cursor := 1
      prompt := { text := ['$'], mask := some (.glyph '*') } } }
    (c.buffer.CursorInLine ∧ ∀ ch ∈ c.buffer.line, ' ' ≤ ch ∧ ch ≤ '~') ∧
      c.buffer.MaskCountsCells ∧
      c.buffer.displayCursor = visibleWidth (c.buffer.visibleLine.take c.buffer.cursor) := by
  intro c
  have hcursor : c.buffer.CursorInLine := by decide
  have hline : ∀ ch ∈ c.buffer.line, ' ' ≤ ch ∧ ch ≤ '~' := by simp [c]
  have hmask : c.buffer.MaskCountsCells := by
    rintro g ⟨⟩
    exact oneCellEach_of_printable (by decide) 1
  exact ⟨⟨hcursor, hline⟩, hmask, (draw_places_cursor_iff c hcursor hline).1.mpr hmask⟩

/-- Under a glyph of two cells the cursor of the terminal goes back into the middle of one. -/
theorem draw_misplaces_cursor_under_wide_glyph :
    let c : Console := { buffer := {
      line := ['a', 'b']
      cursor := 1
      prompt := { mask := some (.glyph '日') } } }
    c.buffer.displayCursor = 1 ∧
      visibleWidth (c.buffer.visibleLine.take c.buffer.cursor) = 2 ∧
      visibleWidth c.buffer.visibleLine = 4 ∧
      c.draw.output = clearRow ++ c.buffer.visibleLine ++ moveBack 3 := by
  intro c
  have hglyph : clusterWidth ['日'] = 2 := by decide +kernel
  have hwidth : ∀ n, visibleWidth (List.replicate n '日') = n * 2 := by
    intro n
    rw [visibleWidth_replicate_of_not_clings (by decide +kernel) (by decide +kernel), hglyph]
  have htotal : visibleWidth c.buffer.visibleLine = 4 := hwidth 2
  refine ⟨rfl, hwidth 1, htotal, ?_⟩
  rw [output_draw, drawing, tailWidth, htotal]
  rfl

end Console

end LineEditor
