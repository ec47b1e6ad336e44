import LineEditor.Proofs.Decoding
import Mathlib.Data.List.Forall2

/-!
# What is written is read again

A text that is written in a charset and a stream of octets that is read in it should be two forms of
the same thing. In UTF-8 every text has octets, and comes back from them however they are cut into
chunks; a stream of octets comes back if it is well-formed, and only then. In Latin-1 it is the
other way round: every stream comes back, and of a text the characters that have an octet.

Which streams are well-formed is told by a table, with a row for each kind of sequence and a range
of octets for each place in it. Neither the encoder nor the decoder has this table.

## Main definitions

* `Utf8.sequenceRows`, `Utf8.InRow` — the table of well-formed sequences.
* `Utf8.WellFormed` — a stream that is made of well-formed sequences.

## Main results

* `Utf8.isSequence_iff_inRow` — the table agrees with what the first octet tells.
* `Utf8.wellFormed_iff` — the well-formed streams are the octets of the texts.
* `Charset.roundTrip` — what comes back, in both charsets and both ways round.
-/

namespace LineEditor

namespace Utf8

/-! ### The table of well-formed sequences -/

/-- The kinds of well-formed sequences, each with the least and the greatest octet at its places. -/
def sequenceRows : List (List (Nat × Nat)) :=
  [[(0x00, 0x7F)],
    [(0xC2, 0xDF), (0x80, 0xBF)],
    [(0xE0, 0xE0), (0xA0, 0xBF), (0x80, 0xBF)],
    [(0xE1, 0xEC), (0x80, 0xBF), (0x80, 0xBF)],
    [(0xED, 0xED), (0x80, 0x9F), (0x80, 0xBF)],
    [(0xEE, 0xEF), (0x80, 0xBF), (0x80, 0xBF)],
    [(0xF0, 0xF0), (0x90, 0xBF), (0x80, 0xBF), (0x80, 0xBF)],
    [(0xF1, 0xF3), (0x80, 0xBF), (0x80, 0xBF), (0x80, 0xBF)],
    [(0xF4, 0xF4), (0x80, 0x8F), (0x80, 0xBF), (0x80, 0xBF)]]

/-- There is an octet for each place, and it lies in the range of the place. -/
def InRow (row : List (Nat × Nat)) (s : Octets) : Prop :=
  List.Forall₂ (fun range b => range.1 ≤ b.toNat ∧ b.toNat ≤ range.2) row s

instance (row : List (Nat × Nat)) (s : Octets) : Decidable (InRow row s) :=
  inferInstanceAs (Decidable (List.Forall₂ _ _ _))

/-- The octets are made of well-formed sequences. -/
def WellFormed (octets : Octets) : Prop :=
  ∃ sequences : List Octets,
    (∀ s ∈ sequences, ∃ row ∈ sequenceRows, InRow row s) ∧ sequences.flatten = octets

theorem isSequence_cons_cons_iff {lead second : UInt8} {tails : Octets} :
    IsSequence (lead :: second :: tails) ↔
      allowsSecond lead second = true ∧ (∀ b ∈ tails, IsTail b) ∧
        tails.length + 2 = sequenceLength lead := by
  constructor
  · intro h
    cases h with
    | longer hsecond htails hlength => exact ⟨hsecond, htails, hlength⟩
  · rintro ⟨hsecond, htails, hlength⟩
    exact .longer hsecond htails hlength

/-- Which octets come first in a sequence of a given length. -/
theorem eq_sequenceLength_iff (lead : UInt8) :
    (1 = sequenceLength lead ↔ lead.toNat < 0x80) ∧
      (2 = sequenceLength lead ↔ 0xC2 ≤ lead.toNat ∧ lead.toNat < 0xE0) ∧
      (3 = sequenceLength lead ↔ 0xE0 ≤ lead.toNat ∧ lead.toNat < 0xF0) ∧
      (4 = sequenceLength lead ↔ 0xF0 ≤ lead.toNat ∧ lead.toNat < 0xF5) := by
  rw [sequenceLength_eq]
  grind

/-- The first octet tells how many there are, the second one has less room behind four of the first
ones, and the others may be any that go on with a sequence. The table says the same row by row. -/
theorem isSequence_iff_inRow {s : Octets} :
    IsSequence s ↔ ∃ row ∈ sequenceRows, InRow row s := by
  -- how many octets there are leaves only the rows of that length
  match s with
  | [] =>
    have hnone : ¬IsSequence [] := fun h => nomatch h
    simp [hnone, sequenceRows, InRow]
  | [a] =>
    have hrows : (∃ row ∈ sequenceRows, InRow row [a]) ↔ a.toNat ≤ 0x7F := by
      simp [sequenceRows, InRow]
    have hsingle : IsSequence [a] ↔ 1 = sequenceLength a :=
      ⟨fun h => h.length_eq, fun h => .single h.symm⟩
    obtain ⟨hone, -⟩ := eq_sequenceLength_iff a
    rw [hrows, hsingle, hone]
    omega
  | [a, b] =>
    have hrows : (∃ row ∈ sequenceRows, InRow row [a, b]) ↔
        (0xC2 ≤ a.toNat ∧ a.toNat ≤ 0xDF) ∧ 0x80 ≤ b.toNat ∧ b.toNat ≤ 0xBF := by
      simp [sequenceRows, InRow]
    obtain ⟨-, htwo, -⟩ := eq_sequenceLength_iff a
    rw [hrows, isSequence_cons_cons_iff, allowsSecond_iff, IsTail, List.length_nil, htwo]
    simp only [List.not_mem_nil, IsEmpty.forall_iff, implies_true, true_and]
    omega
  | [a, b, c] =>
    have hrows : (∃ row ∈ sequenceRows, InRow row [a, b, c]) ↔
        ((0xE0 ≤ a.toNat ∧ a.toNat ≤ 0xE0) ∧ (0xA0 ≤ b.toNat ∧ b.toNat ≤ 0xBF) ∧
          0x80 ≤ c.toNat ∧ c.toNat ≤ 0xBF) ∨
        ((0xE1 ≤ a.toNat ∧ a.toNat ≤ 0xEC) ∧ (0x80 ≤ b.toNat ∧ b.toNat ≤ 0xBF) ∧
          0x80 ≤ c.toNat ∧ c.toNat ≤ 0xBF) ∨
        ((0xED ≤ a.toNat ∧ a.toNat ≤ 0xED) ∧ (0x80 ≤ b.toNat ∧ b.toNat ≤ 0x9F) ∧
          0x80 ≤ c.toNat ∧ c.toNat ≤ 0xBF) ∨
        (0xEE ≤ a.toNat ∧ a.toNat ≤ 0xEF) ∧ (0x80 ≤ b.toNat ∧ b.toNat ≤ 0xBF) ∧
          0x80 ≤ c.toNat ∧ c.toNat ≤ 0xBF := by
      simp [sequenceRows, InRow]
    obtain ⟨-, -, hthree, -⟩ := eq_sequenceLength_iff a
    rw [hrows, isSequence_cons_cons_iff, allowsSecond_iff, IsTail, List.length_singleton, hthree]
    simp only [List.mem_singleton, forall_eq, IsTail]
    omega
  | [a, b, c, d] =>
    have hrows : (∃ row ∈ sequenceRows, InRow row [a, b, c, d]) ↔
        ((0xF0 ≤ a.toNat ∧ a.toNat ≤ 0xF0) ∧ (0x90 ≤ b.toNat ∧ b.toNat ≤ 0xBF) ∧
          (0x80 ≤ c.toNat ∧ c.toNat ≤ 0xBF) ∧ 0x80 ≤ d.toNat ∧ d.toNat ≤ 0xBF) ∨
        ((0xF1 ≤ a.toNat ∧ a.toNat ≤ 0xF3) ∧ (0x80 ≤ b.toNat ∧ b.toNat ≤ 0xBF) ∧
          (0x80 ≤ c.toNat ∧ c.toNat ≤ 0xBF) ∧ 0x80 ≤ d.toNat ∧ d.toNat ≤ 0xBF) ∨
        (0xF4 ≤ a.toNat ∧ a.toNat ≤ 0xF4) ∧ (0x80 ≤ b.toNat ∧ b.toNat ≤ 0x8F) ∧
          (0x80 ≤ c.toNat ∧ c.toNat ≤ 0xBF) ∧ 0x80 ≤ d.toNat ∧ d.toNat ≤ 0xBF := by
      simp [sequenceRows, InRow]
    obtain ⟨-, -, -, hfour⟩ := eq_sequenceLength_iff a
    rw [hrows, isSequence_cons_cons_iff, allowsSecond_iff, IsTail, List.length_cons,
      List.length_singleton, hfour]
    simp only [List.mem_cons, List.not_mem_nil, or_false, forall_eq_or_imp, forall_eq, IsTail]
    omega
  | a :: b :: c :: d :: e :: rest =>
    have hlong : ¬IsSequence (a :: b :: c :: d :: e :: rest) := by
      intro h
      have hlength := h.length_eq
      have hle := (bounds_sequenceLength a).1
      simp only [List.length_cons] at hlength
      omega
    simp [hlong, sequenceRows, InRow]

/-- A surrogate has no row. -/
example : ¬∃ row ∈ sequenceRows, InRow row [0xED, 0xA0, 0x80] := by decide

theorem wellFormed_of_isSequence {sequences : List Octets} (h : ∀ s ∈ sequences, IsSequence s) :
    WellFormed sequences.flatten :=
  ⟨sequences, fun s hs => isSequence_iff_inRow.mp (h s hs), rfl⟩

/-- The well-formed streams are the octets of the texts. -/
theorem wellFormed_iff {octets : Octets} : WellFormed octets ↔ ∃ t, encode t = octets := by
  constructor
  · rintro ⟨sequences, hrows, rfl⟩
    refine ⟨sequences.map charOf, ?_⟩
    rw [encode, List.flatMap_map]
    -- each sequence is how its own character is written
    have hwritten : sequences.map (fun s => encodeChar (charOf s)) = sequences := by
      rw [List.map_congr_left fun s hs => (isSequence_iff_inRow.mpr (hrows s hs)).encodeChar_charOf,
        List.map_id']
    rw [List.flatMap_def, hwritten]
  · rintro ⟨t, rfl⟩
    rw [encode, List.flatMap_def]
    apply wellFormed_of_isSequence
    intro s hs
    obtain ⟨c, -, rfl⟩ := List.mem_map.mp hs
    exact isSequence_encodeChar c

end Utf8

namespace Charset

/-! ### Latin-1 -/

/-- An octet is the octet of the character that it stands for. -/
theorem latin1Octet_ofNat (b : UInt8) : latin1Octet (Char.ofNat b.toNat) = b := by
  have hlt : b.toNat < 0x100 := b.toNat_lt
  have hchar : (Char.ofNat b.toNat).toNat = b.toNat := Utf8.toNat_ofNat_of_valid (by omega)
  rw [latin1Octet, hchar, if_pos hlt, Utf8.toUInt8_of_eq_toNat rfl]

/-- A character with an octet of its own is what the octet stands for, and any other one is replaced
by a question mark. -/
theorem ofNat_latin1Octet (c : Char) :
    Char.ofNat (latin1Octet c).toNat = if 0xFF < c.toNat then '?' else c := by
  rw [latin1Octet]
  by_cases hfar : 0xFF < c.toNat
  · rw [if_pos hfar, if_neg (by omega)]
    rfl
  · rw [if_neg hfar, if_pos (by omega), Utf8.toNat_toUInt8_of_lt (by omega), Char.ofNat_toNat]

/-! ### Both ways round -/

/-- A decoder that has read nothing. -/
def decoder (charset : Charset) : Decoder := { charset }

theorem decodeAll_latin1 (chunks : List Octets) :
    latin1.decoder.decodeAll chunks =
      (latin1.decoder, chunks.flatten.map fun b => Char.ofNat b.toNat) := by
  rw [Decoder.decodeAll_eq_decode_flatten]
  rfl

theorem decodeAll_utf8_of_flatten_eq {t : Text} {chunks : List Octets}
    (h : chunks.flatten = utf8.encode t) : utf8.decoder.decodeAll chunks = (utf8.decoder, t) := by
  have hdecode : Utf8.decode [] chunks.flatten = ([], t) := by rw [h, encode, Utf8.decode_encode]
  rw [Decoder.decodeAll_eq_decode_flatten, Decoder.decode, decoder, hdecode]

/-- In UTF-8 every text comes back from its octets, however they are cut into chunks, and nothing is
held at the end; and of what was read the same octets are written again exactly if they are
well-formed. In Latin-1 all octets that were read are written again; and a text comes back from its
octets with a question mark for each character above U+00FF, and nothing else changed. -/
theorem roundTrip :
    (∀ (t : Text) (chunks : List Octets), chunks.flatten = utf8.encode t →
      utf8.decoder.decodeAll chunks = (utf8.decoder, t)) ∧
    (∀ chunks : List Octets,
      utf8.encode (utf8.decoder.decodeAll chunks).2 = chunks.flatten ↔
        Utf8.WellFormed chunks.flatten) ∧
    (∀ chunks : List Octets,
      latin1.encode (latin1.decoder.decodeAll chunks).2 = chunks.flatten) ∧
    ∀ (t : Text) (chunks : List Octets), chunks.flatten = latin1.encode t →
      latin1.decoder.decodeAll chunks =
        (latin1.decoder, t.map fun c => if 0xFF < c.toNat then '?' else c) := by
  refine ⟨fun t chunks h => decodeAll_utf8_of_flatten_eq h, ?_, ?_, ?_⟩
  · intro chunks
    rw [Utf8.wellFormed_iff]
    constructor
    · intro h
      exact ⟨_, h⟩
    · rintro ⟨t, ht⟩
      rw [decodeAll_utf8_of_flatten_eq ht.symm]
      exact ht
  · intro chunks
    rw [decodeAll_latin1, encode, List.map_map]
    exact List.map_id'' latin1Octet_ofNat _
  · intro t chunks h
    rw [decodeAll_latin1, h, encode, List.map_map]
    exact congrArg (Prod.mk _) (List.map_congr_left fun c _ => ofNat_latin1Octet c)

/-- Characters of one to four octets, cut inside of three of them. -/
theorem roundTrip_mixed :
    let chunks : List Octets :=
      [[0x61, 0xC3], [0xA9, 0xE2, 0x82], [], [0xAC, 0xF0], [0x9F, 0x98, 0x80]]
    chunks.flatten = utf8.encode "aé€😀".toList ∧
      utf8.decoder.decodeAll chunks = (utf8.decoder, "aé€😀".toList) ∧
      [[0x61], [0xE9, 0x3F]].flatten = latin1.encode "aé€".toList ∧
      latin1.decoder.decodeAll [[0x61], [0xE9, 0x3F]] = (latin1.decoder, "aé?".toList) := by
  intro chunks
  have hutf8 : chunks.flatten = utf8.encode "aé€😀".toList := by decide
  have hlatin1 : [[0x61], [0xE9, 0x3F]].flatten = latin1.encode "aé€".toList := by decide
  obtain ⟨hback, -, -, hmarked⟩ := roundTrip
  exact ⟨hutf8, hback _ _ hutf8, hlatin1, hmarked _ _ hlatin1⟩

end Charset

end LineEditor
