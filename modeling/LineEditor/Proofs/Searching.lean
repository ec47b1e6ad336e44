import LineEditor.Proofs.Retention
import Mathlib.Data.List.Infix
import Mathlib.Data.List.Rotate

/-!
# Searching goes round

A search that is repeated comes by all entries that hold the term, one after the other, and then by
the first one again. What makes it so is the gap. It cuts the indexes of these entries into those
below it and those above, and a search in some direction goes through one part and then through the
other. A hit moves the gap to its far side, so that it is the last one to be found again: the round
that begins there is the round before, turned by one. In the other direction the hit lies next to
the gap, and is found at once.

## Main definitions

* `SearchDirection.round` — indexes in the order in which a search from the gap comes by them.
* `History.matching` are the indexes of the entries that hold a term, and `History.round` is the
  order in which searches come by them.
* `HistoryOp.LeavesGap`, `HistoryOp.GoesOnSearching` — what may be done between two searches.

## Main results

* `SearchDirection.round_past` — after a hit the round is turned by one.
* `SearchDirection.head?_round_past_of_ne` — in the other direction the hit comes first.
* `History.search_eq` — a search finds the first index of the round.
* `History.round_run` — after several searches the round is turned as often.
* `History.search_goes_round` — what any search finds after any others.
-/

namespace LineEditor

theorem Text.occursIn_iff {part t : Text} : Text.occursIn part t = true ↔ part <:+: t := by
  induction t with
  | nil => rw [Text.occursIn, List.isEmpty_iff, List.infix_nil]
  | cons c t ih =>
    rw [Text.occursIn, Bool.or_eq_true, List.isPrefixOf_iff_prefix, ih, List.infix_cons_iff]

namespace SearchDirection

/-- Where the gap lies after a hit: on the far side of it. -/
def past : SearchDirection → Nat → Nat
  | .reverse, index => index
  | .forward, index => index + 1

/-- Two parts of a list in the order in which a search between them comes by their members: to the
end in its direction, and on from the other end. -/
def around (direction : SearchDirection) (below above : List Nat) : List Nat :=
  match direction with
  | .reverse => below.reverse ++ above.reverse
  | .forward => above ++ below

/-- Indexes in the order in which a search from the gap comes by them. -/
def round (direction : SearchDirection) (gap : Nat) (indexes : List Nat) : List Nat :=
  direction.around (indexes.filter (· < gap)) (indexes.filter (gap ≤ ·))

variable {direction other : SearchDirection} {gap i : Nat} {indexes below above rest : List Nat}

theorem filter_around (p : Nat → Bool) :
    (direction.around below above).filter p =
      direction.around (below.filter p) (above.filter p) := by
  cases direction with
  | reverse => simp only [around, List.filter_append, List.filter_reverse]
  | forward => simp only [around, List.filter_append]

theorem perm_around : (direction.around below above).Perm (below ++ above) := by
  cases direction with
  | reverse => exact (List.reverse_perm _).append (List.reverse_perm _)
  | forward => exact List.perm_append_comm

/-- A list that is cut at the gap is gone through from there. -/
theorem round_append (hbelow : ∀ j ∈ below, j < gap) (habove : ∀ j ∈ above, gap ≤ j) :
    direction.round gap (below ++ above) = direction.around below above := by
  have hlt : (below ++ above).filter (· < gap) = below := by
    rw [List.filter_append, List.filter_eq_self.mpr (by simpa using hbelow),
      List.filter_eq_nil_iff.mpr (by simpa using habove), List.append_nil]
  have hle : (below ++ above).filter (gap ≤ ·) = above := by
    rw [List.filter_append, List.filter_eq_nil_iff.mpr (by simpa using hbelow),
      List.filter_eq_self.mpr (by simpa using habove), List.nil_append]
  rw [round, hlt, hle]

/-- Indexes in ascending order can be cut at the gap. -/
theorem exists_cut (h : indexes.Pairwise (· < ·)) (gap : Nat) :
    ∃ below above, indexes = below ++ above ∧ (∀ j ∈ below, j < gap) ∧ ∀ j ∈ above, gap ≤ j := by
  induction indexes with
  | nil => exact ⟨[], [], rfl, by simp, by simp⟩
  | cons first indexes ih =>
    obtain ⟨hfirst, hindexes⟩ := List.pairwise_cons.mp h
    by_cases hlt : first < gap
    · obtain ⟨below, above, rfl, hbelow, habove⟩ := ih hindexes
      exact ⟨first :: below, above, rfl, List.forall_mem_cons.mpr ⟨hlt, hbelow⟩, habove⟩
    · -- all that follow are greater still
      refine ⟨[], first :: indexes, rfl, by simp, List.forall_mem_cons.mpr ⟨by omega, ?_⟩⟩
      intro j hj
      have hgreater := hfirst j hj
      omega

/-- What comes first is next to the cut, or else at the far end; what follows it goes around it. -/
theorem exists_split_of_around (h : direction.around below above = i :: rest) :
    ∃ before behind, below ++ above = before ++ i :: behind ∧
      direction.around before behind = rest := by
  cases direction with
  | forward =>
    rw [around] at h
    cases above with
    | nil => exact ⟨[], rest, by simpa using h, List.append_nil rest⟩
    | cons first above =>
      obtain ⟨rfl, rfl⟩ := List.cons.inj h
      exact ⟨below, above, rfl, rfl⟩
  | reverse =>
    rw [around] at h
    rcases List.eq_nil_or_concat below with rfl | ⟨before, last, rfl⟩
    · -- nothing lies below the gap, so the search starts at the far end
      refine ⟨rest.reverse, [], ?_, ?_⟩
      · rw [List.nil_append, ← List.reverse_cons, ← h, List.reverse_nil, List.nil_append,
          List.reverse_reverse]
      · rw [around, List.reverse_reverse, List.reverse_nil, List.append_nil]
    · rw [List.concat_eq_append, List.reverse_append] at h
      obtain ⟨rfl, rfl⟩ := List.cons.inj h
      exact ⟨before, above, by simp, rfl⟩

theorem exists_split (hsorted : indexes.Pairwise (· < ·))
    (h : direction.round gap indexes = i :: rest) :
    ∃ before behind, indexes = before ++ i :: behind ∧ (∀ j ∈ before, j < i) ∧
      (∀ j ∈ behind, i < j) ∧ direction.around before behind = rest := by
  obtain ⟨below, above, rfl, hbelow, habove⟩ := exists_cut hsorted gap
  rw [round_append hbelow habove] at h
  obtain ⟨before, behind, hsplit, hrest⟩ := exists_split_of_around h
  rw [hsplit] at hsorted ⊢
  obtain ⟨-, hbehind, hbefore⟩ := List.pairwise_append.mp hsorted
  exact ⟨before, behind, rfl, fun j hj => hbefore j hj i List.mem_cons_self,
    (List.pairwise_cons.mp hbehind).1, hrest⟩

/-- In front of an index, and behind it, a search goes around what is on both sides. -/
theorem round_of_split (direction : SearchDirection) {before behind : List Nat}
    (hbefore : ∀ j ∈ before, j < i) (hbehind : ∀ j ∈ behind, i < j) :
    direction.round i (before ++ i :: behind) = direction.around before (i :: behind) ∧
      direction.round (i + 1) (before ++ i :: behind) =
        direction.around (before ++ [i]) behind := by
  constructor
  · refine round_append hbefore ?_
    intro j hj
    rcases List.mem_cons.mp hj with rfl | hj
    · exact Nat.le_refl _
    · exact Nat.le_of_lt (hbehind j hj)
  · rw [List.append_cons]
    refine round_append ?_ fun j hj => hbehind j hj
    intro j hj
    rcases List.mem_append.mp hj with hj | hj
    · exact Nat.lt_succ_of_lt (hbefore j hj)
    · exact Nat.lt_succ_of_le (Nat.le_of_eq (List.mem_singleton.mp hj))

/-- After a hit the round is turned by one. -/
theorem round_past (hsorted : indexes.Pairwise (· < ·))
    (h : direction.round gap indexes = i :: rest) :
    direction.round (direction.past i) indexes = rest ++ [i] := by
  obtain ⟨before, behind, rfl, hbefore, hbehind, rfl⟩ := exists_split hsorted h
  obtain ⟨hfront, hback⟩ := round_of_split direction hbefore hbehind
  cases direction with
  | reverse => rw [past, hfront, around, around, List.reverse_cons, List.append_assoc]
  | forward => rw [past, hback, around, around, List.append_assoc]

/-- In the other direction the hit comes first. -/
theorem head?_round_past_of_ne (hsorted : indexes.Pairwise (· < ·))
    (h : direction.round gap indexes = i :: rest) (hother : other ≠ direction) :
    (other.round (direction.past i) indexes).head? = some i := by
  obtain ⟨before, behind, rfl, hbefore, hbehind, rfl⟩ := exists_split hsorted h
  obtain ⟨hfront, hback⟩ := round_of_split other hbefore hbehind
  cases direction with
  | reverse =>
    cases other with
    | reverse => contradiction
    | forward => rw [past, hfront]; rfl
  | forward =>
    cases other with
    | forward => contradiction
    | reverse => rw [past, hback, around, List.reverse_append]; rfl

end SearchDirection

/-- An operation that leaves the entries and the gap alone. -/
def HistoryOp.LeavesGap : HistoryOp → Prop
  | .push _ => False
  | .clear => False
  | .search _ => False
  | _ => True

/-- An operation that does not get in the way of searches for a term in one direction, or is one of
them. -/
def HistoryOp.GoesOnSearching (direction : SearchDirection) (term : Text) : HistoryOp → Prop
  | .search text => text = term
  | .setDirection turned => turned = direction
  | op => op.LeavesGap

instance : (op : HistoryOp) → Decidable op.LeavesGap
  | .push _ | .clear | .search _ => isFalse id
  | .get _ | .previous | .next | .setDraft _ | .setDirection _ | .setEnabled _ => isTrue trivial

instance (direction : SearchDirection) (term : Text) :
    (op : HistoryOp) → Decidable (op.GoesOnSearching direction term)
  | .search text => inferInstanceAs (Decidable (text = term))
  | .setDirection turned => inferInstanceAs (Decidable (turned = direction))
  | .push _ | .clear => isFalse id
  | .get _ | .previous | .next | .setDraft _ | .setEnabled _ => isTrue trivial

namespace History

/-- The indexes of the entries that hold a term, in ascending order. -/
def matching (h : History) (term : Text) : List Nat :=
  (List.range h.size).filter fun i => (h.entries[i]?).any fun entry => term <:+: entry

/-- The indexes of the entries that hold a term, in the order in which searches come by them. -/
def round (h : History) (term : Text) : List Nat :=
  h.direction.round h.gap (h.matching term)

variable {h h' : History} {term entry : Text} {i : Nat} {rest : List Nat}

theorem pairwise_matching (h : History) (term : Text) : (h.matching term).Pairwise (· < ·) :=
  List.pairwise_lt_range.filter _

theorem mem_matching_iff :
    i ∈ h.matching term ↔ ∃ entry, h.entries[i]? = some entry ∧ term <:+: entry := by
  rw [matching, List.mem_filter, List.mem_range, Option.any_eq_true]
  simp only [decide_eq_true_eq]
  constructor
  · exact And.right
  · rintro ⟨entry, hentry, hholds⟩
    exact ⟨(List.getElem?_eq_some_iff.mp hentry).1, entry, hentry, hholds⟩

theorem perm_round (h : History) (term : Text) : (h.round term).Perm (h.matching term) := by
  obtain ⟨below, above, hcut, hbelow, habove⟩ :=
    SearchDirection.exists_cut (h.pairwise_matching term) h.gap
  rw [round, hcut, SearchDirection.round_append hbelow habove]
  exact SearchDirection.perm_around

theorem mem_round_iff :
    i ∈ h.round term ↔ ∃ entry, h.entries[i]? = some entry ∧ term <:+: entry :=
  (perm_round h term).mem_iff.trans mem_matching_iff

theorem round_eq_nil_iff : h.round term = [] ↔ ∀ entry ∈ h.entries, ¬term <:+: entry := by
  rw [List.eq_nil_iff_forall_not_mem]
  constructor
  · intro hnone entry hentry hholds
    obtain ⟨i, hi⟩ := List.mem_iff_getElem?.mp hentry
    exact hnone i (mem_round_iff.mpr ⟨entry, hi, hholds⟩)
  · intro hnone i hi
    obtain ⟨entry, hentry, hholds⟩ := mem_round_iff.mp hi
    exact hnone entry (List.mem_of_getElem? hentry) hholds

theorem nodup_round (h : History) (term : Text) : (h.round term).Nodup :=
  (perm_round h term).nodup_iff.mpr (List.nodup_range.filter _)

/-- A search looks through the round. -/
theorem filter_scanOrder (h : History) (term : Text) :
    (scanOrder h.direction (min h.gap h.entries.length) h.entries.length).filter
      (fun i => (h.entries[i]?).any (Text.occursIn term)) = h.round term := by
  have hholds : (fun i : Nat => (h.entries[i]?).any (Text.occursIn term)) =
      fun i => (h.entries[i]?).any fun entry => term <:+: entry := by
    funext i
    congr 1
    funext entry
    exact Bool.eq_iff_iff.mpr (Text.occursIn_iff.trans decide_eq_true_iff.symm)
  have hscan (gap size : Nat) : scanOrder h.direction gap size =
      h.direction.around (List.range gap) ((List.range size).drop gap) := by
    cases h.direction with
    | reverse => rfl
    | forward => rfl
  -- a gap behind the entries cuts like one at their end
  have hrange := List.take_append_drop (min h.gap h.entries.length) (List.range h.entries.length)
  rw [List.take_range, Nat.min_eq_left (Nat.min_le_right _ _)] at hrange
  rw [hholds, hscan, SearchDirection.filter_around, round, matching, size, ← hrange,
    List.filter_append, hrange, SearchDirection.round_append]
  · intro j hj
    have hlt := List.mem_range.mp (List.mem_of_mem_filter hj)
    omega
  · intro j hj
    have hmem := List.mem_of_mem_filter hj
    rw [List.range_eq_range', List.drop_range', List.mem_range'_1] at hmem
    omega

/-- A search finds the first index of the round, and moves the gap to its far side. -/
theorem search_eq (h : History) (term : Text) :
    h.search term = match (h.round term).head? with
      | none => (h, none)
      | some i => ({ h with gap := h.direction.past i }, h.entries[i]?) := by
  rw [search, ← filter_scanOrder, List.head?_filter]
  cases (scanOrder h.direction (min h.gap h.entries.length) h.entries.length).find? _ with
  | none => rfl
  | some i =>
    cases h.direction with
    | reverse => rfl
    | forward => rfl

theorem search_of_round_eq_nil (hround : h.round term = []) : h.search term = (h, none) := by
  rw [search_eq, hround]
  rfl

theorem search_of_round_eq_cons (hround : h.round term = i :: rest) :
    h.search term = ({ h with gap := h.direction.past i }, h.entries[i]?) := by
  rw [search_eq, hround]
  rfl

/-- A search finds the entry whose index comes first. -/
theorem search_of_head?_eq_some (hhead : (h.round term).head? = some i)
    (hentry : h.entries[i]? = some entry) :
    h.search term = ({ h with gap := h.direction.past i }, some entry) := by
  rw [search_eq, hhead, ← hentry]

/-- A search moves the gap, and nothing else. -/
theorem exists_gap_search (h : History) (term : Text) :
    ∃ gap, (h.search term).1 = { h with gap } := by
  cases hround : h.round term with
  | nil => exact ⟨h.gap, by rw [search_of_round_eq_nil hround]⟩
  | cons i rest => exact ⟨_, by rw [search_of_round_eq_cons hround]⟩

/-! ### Several searches -/

theorem round_congr (hentries : h'.entries = h.entries) (hgap : h'.gap = h.gap)
    (hdirection : h'.direction = h.direction) (term : Text) : h'.round term = h.round term := by
  rw [round, round, matching, matching, size, size, hentries, hgap, hdirection]

/-- A search turns the round by one. -/
theorem round_search (h : History) (term : Text) :
    (h.search term).1.round term = (h.round term).rotate 1 := by
  cases hround : h.round term with
  | nil =>
    rw [search_of_round_eq_nil hround]
    exact hround
  | cons i rest =>
    rw [search_of_round_eq_cons hround, List.rotate_cons_succ, List.rotate_zero]
    exact SearchDirection.round_past (h.pairwise_matching term) hround

/-- A step moves the fetch position, and nothing else. -/
theorem exists_fetch_previous (h : History) : ∃ fetch, h.previous.1 = { h with fetch } := by
  rw [previous]
  split
  · exact ⟨h.fetch, rfl⟩
  · exact ⟨h.fetch - 1, rfl⟩

theorem exists_fetch_next (h : History) : ∃ fetch, h.next.1 = { h with fetch } := by
  rw [next]
  split
  · exact ⟨h.fetch, rfl⟩
  · split
    · exact ⟨h.fetch + 1, rfl⟩
    · exact ⟨h.entries.length, rfl⟩

theorem perform_of_leavesGap {op : HistoryOp} (hop : op.LeavesGap) (h : History) :
    (h.perform op).1.entries = h.entries ∧ (h.perform op).1.gap = h.gap := by
  cases op with
  | push | clear | search => contradiction
  | previous =>
    obtain ⟨fetch, hfetch⟩ := h.exists_fetch_previous
    rw [perform, hfetch]
    exact ⟨rfl, rfl⟩
  | next =>
    obtain ⟨fetch, hfetch⟩ := h.exists_fetch_next
    rw [perform, hfetch]
    exact ⟨rfl, rfl⟩
  | get | setDraft | setDirection | setEnabled => exact ⟨rfl, rfl⟩

/-- While searches go on, the direction stays. -/
theorem direction_perform {op : HistoryOp} (hop : op.GoesOnSearching h.direction term) :
    (h.perform op).1.direction = h.direction := by
  cases op with
  | push | clear => contradiction
  | search text =>
    obtain ⟨gap, hgap⟩ := h.exists_gap_search text
    rw [perform, hgap]
  | previous =>
    obtain ⟨fetch, hfetch⟩ := h.exists_fetch_previous
    rw [perform, hfetch]
  | next =>
    obtain ⟨fetch, hfetch⟩ := h.exists_fetch_next
    rw [perform, hfetch]
  | setDirection direction => exact hop
  | get | setDraft | setEnabled => rfl

theorem run_of_leavesGap {ops : List HistoryOp} (hops : ∀ op ∈ ops, op.LeavesGap) (h : History) :
    (h.run ops).entries = h.entries ∧ (h.run ops).gap = h.gap := by
  induction ops generalizing h with
  | nil => exact ⟨rfl, rfl⟩
  | cons op ops ih =>
    obtain ⟨hop, hrest⟩ := List.forall_mem_cons.mp hops
    obtain ⟨hentries, hgap⟩ := perform_of_leavesGap hop h
    obtain ⟨hentries', hgap'⟩ := ih hrest (h.perform op).1
    exact ⟨hentries'.trans hentries, hgap'.trans hgap⟩

/-- One operation turns the round by one if it is a search, and leaves it as it is if it is not. -/
theorem round_perform {op : HistoryOp} (hop : op.GoesOnSearching h.direction term) :
    (h.perform op).1.entries = h.entries ∧
      (h.perform op).1.round term = (h.round term).rotate ([op].count (.search term)) := by
  have haside : op.LeavesGap → [op].count (.search term) = 0 →
      (h.perform op).1.entries = h.entries ∧
        (h.perform op).1.round term = (h.round term).rotate ([op].count (.search term)) := by
    intro hleaves hcount
    obtain ⟨hentries, hgap⟩ := perform_of_leavesGap hleaves h
    rw [hcount, List.rotate_zero]
    exact ⟨hentries, round_congr hentries hgap (direction_perform hop) term⟩
  cases op with
  | push | clear => contradiction
  | search text =>
    obtain rfl : text = term := hop
    rw [List.count_singleton_self]
    exact ⟨h.entries_search text, h.round_search text⟩
  | get | previous | next | setDraft | setDirection | setEnabled => exact haside trivial (by simp)

/-- After several searches the round is turned as often. -/
theorem round_run {ops : List HistoryOp}
    (hops : ∀ op ∈ ops, op.GoesOnSearching h.direction term) :
    (h.run ops).entries = h.entries ∧ (h.run ops).direction = h.direction ∧
      (h.run ops).round term = (h.round term).rotate (ops.count (.search term)) := by
  induction ops generalizing h with
  | nil => exact ⟨rfl, rfl, (List.rotate_zero _).symm⟩
  | cons op ops ih =>
    obtain ⟨hop, hrest⟩ := List.forall_mem_cons.mp hops
    obtain ⟨hentries, hround⟩ := round_perform hop
    have hdirection := direction_perform hop
    rw [← hdirection] at hrest
    obtain ⟨hentries', hdirection', hround'⟩ := ih hrest
    refine ⟨hentries'.trans hentries, hdirection'.trans hdirection, hround'.trans ?_⟩
    rw [hround, List.rotate_rotate, ← List.count_append, List.singleton_append]

/-- A search that comes after others finds the entry whose turn it is. -/
theorem exists_search_run (hsome : h.round term ≠ []) {ops : List HistoryOp}
    (hops : ∀ op ∈ ops, op.GoesOnSearching h.direction term) :
    ∃ i entry, (h.round term)[ops.count (.search term) % (h.round term).length]? = some i ∧
      h.entries[i]? = some entry ∧
      (h.run ops).search term =
        ({ h.run ops with gap := h.direction.past i }, some entry) := by
  obtain ⟨hentries, hdirection, hround⟩ := round_run hops
  have hlt : ops.count (.search term) % (h.round term).length < (h.round term).length :=
    Nat.mod_lt _ (List.length_pos_iff.mpr hsome)
  obtain ⟨entry, hentry, -⟩ := mem_round_iff.mp (List.getElem_mem hlt)
  refine ⟨_, entry, List.getElem?_eq_getElem hlt, hentry, ?_⟩
  -- the round was turned as often as it was searched, so this index is the first one now
  have hhead : ((h.run ops).round term).head? =
      some (h.round term)[ops.count (.search term) % (h.round term).length] := by
    rw [hround, ← List.rotate_mod, List.head?_rotate hlt]
    exact List.getElem?_eq_getElem hlt
  rw [← hdirection]
  exact search_of_head?_eq_some hhead (hentries ▸ hentry)

/-- A search in the other direction finds what was found before. -/
theorem exists_search_turned {found : History} (hfound : h.search term = (found, some entry))
    {ops : List HistoryOp} (hops : ∀ op ∈ ops, op.LeavesGap)
    (hturned : (found.run ops).direction ≠ h.direction) :
    ∃ i, (h.round term).head? = some i ∧ h.entries[i]? = some entry ∧
      (found.run ops).search term =
        ({ found.run ops with gap := (found.run ops).direction.past i }, some entry) := by
  cases hround : h.round term with
  | nil =>
    have hnone : (none : Option Text) = some entry :=
      congrArg Prod.snd ((search_of_round_eq_nil hround).symm.trans hfound)
    contradiction
  | cons i rest =>
    rw [search_of_round_eq_cons hround] at hfound
    obtain ⟨rfl, hentry⟩ := Prod.mk.inj hfound
    obtain ⟨hentries, hgap⟩ := run_of_leavesGap hops { h with gap := h.direction.past i }
    refine ⟨i, rfl, hentry, search_of_head?_eq_some ?_ ?_⟩
    · -- the gap is where the hit left it, on the side from which the next search comes
      rw [round, matching, size, hentries, hgap]
      exact SearchDirection.head?_round_past_of_ne (h.pairwise_matching term) hround hturned
    · rw [hentries]
      exact hentry

/-- The searches for a term come by the indexes of the entries that hold it, each of them once, in
the order of the round: from the gap to the older or to the newer end, and on from the other one.
Where there is none, a search finds nothing and changes nothing. Otherwise a search that comes after
any others for the term in the same direction, with no push or clear in between, finds the entry
whose turn it is, counting on from the first one when all had theirs. If the direction is turned
after a hit, the next search finds the same entry. A search changes nothing but the gap. -/
theorem search_goes_round (h : History) (term : Text) :
    let order := h.round term
    order.Nodup ∧
      (∀ i, i ∈ order ↔ ∃ entry, h.entries[i]? = some entry ∧ term <:+: entry) ∧
      ((∀ entry ∈ h.entries, ¬term <:+: entry) → h.search term = (h, none)) ∧
      ((∃ entry ∈ h.entries, term <:+: entry) →
        ∀ ops, (∀ op ∈ ops, op.GoesOnSearching h.direction term) →
        ∃ i entry, order[ops.count (.search term) % order.length]? = some i ∧
          h.entries[i]? = some entry ∧
          (h.run ops).search term =
            ({ h.run ops with gap := h.direction.past i }, some entry)) ∧
      (∀ found entry, h.search term = (found, some entry) →
        ∀ ops, (∀ op ∈ ops, op.LeavesGap) → (found.run ops).direction ≠ h.direction →
          ∃ i, order.head? = some i ∧ h.entries[i]? = some entry ∧
            (found.run ops).search term =
              ({ found.run ops with gap := (found.run ops).direction.past i }, some entry)) ∧
      ∃ gap, (h.search term).1 = { h with gap } := by
  intro order
  refine ⟨nodup_round h term, fun i => mem_round_iff,
    fun hnone => search_of_round_eq_nil (round_eq_nil_iff.mpr hnone), ?_,
    fun found entry hfound ops hops hturned => exists_search_turned hfound hops hturned,
    h.exists_gap_search term⟩
  rintro ⟨entry, hentry, hholds⟩ ops hops
  refine exists_search_run ?_ hops
  intro hnil
  exact round_eq_nil_iff.mp hnil entry hentry hholds

/-- Of four entries three hold the term. The third search backwards finds the oldest of them, though
there was a step between the searches; and if the direction is turned after the first search, that
one's hit is found again. -/
theorem search_goes_round_three :
    let h := run { capacity := 5 } [.push "foo1".toList, .push "foo2".toList, .push "bar".toList,
      .push "foo3".toList]
    let term := "foo".toList
    let ops : List HistoryOp := [.search term, .previous, .search term]
    let found := (h.search term).1
    let turn : List HistoryOp := [.next, .setDirection .forward]
    (∃ entry ∈ h.entries, term <:+: entry) ∧
      (∀ op ∈ ops, op.GoesOnSearching h.direction term) ∧
      ((h.run ops).search term).2 = some "foo1".toList ∧
      h.search term = (found, some "foo3".toList) ∧ (∀ op ∈ turn, op.LeavesGap) ∧
      (found.run turn).direction ≠ h.direction ∧
      ((found.run turn).search term).2 = some "foo3".toList := by
  intro h term ops found turn
  have hsome : ∃ entry ∈ h.entries, term <:+: entry := by decide
  have hops : ∀ op ∈ ops, op.GoesOnSearching h.direction term := by decide
  have hfound : h.search term = (found, some "foo3".toList) := by decide
  have hturn : ∀ op ∈ turn, op.LeavesGap := by decide
  have hturned : (found.run turn).direction ≠ h.direction := by decide
  obtain ⟨-, -, -, hround, hback, -⟩ := search_goes_round h term
  obtain ⟨i, entry, hi, hentry, hthird⟩ := hround hsome ops hops
  obtain ⟨j, -, -, hagain⟩ := hback found _ hfound turn hturn hturned
  refine ⟨hsome, hops, ?_, hfound, hturn, hturned, by rw [hagain]⟩
  obtain rfl : i = 0 := by
    have horder : (h.round term)[ops.count (.search term) % (h.round term).length]? = some 0 := by
      decide
    exact Option.some.inj (hi.symm.trans horder)
  rw [hthird, ← hentry]
  decide

end History

end LineEditor
