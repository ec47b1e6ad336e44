import LineEditor.Charset.Basic
import LineEditor.Proofs.Encoding

/-!
# How a stream of octets is decoded

Octets come in chunks, some of them are no text, and a chunk may end anywhere. What the decoder
makes of them is said here without the decoder. A stream is cut into segments, from its start and
with nothing left out: the octets of a character, or octets that belong to no character, of which
there are as many as could have begun one, or a single one. Each segment is one character of the
text, and what is left at the end is the beginning of a character. There is only one way to cut a
stream like this.

## Main definitions

* `Utf8.Begins`, `Utf8.Incomplete` — octets that begin the octets of a character.
* `Utf8.MaximalIllFormed` — octets at some place of a stream that belong to no character.
* `Utf8.Segment`, `Utf8.Splits` — the segments of a stream, and the octets left at its end.
* `Decoder.decodeAll` decodes several chunks.

## Main results

* `Utf8.isSequence_iff` — the well-formed sequences are the octets of the characters.
* `Utf8.step_cases` — what one octet does.
* `Utf8.Splits.unique` — a stream can be cut in one way only.
* `Decoder.decodeAll_utf8` — what is decoded from a stream, however it is cut into chunks.
-/

namespace LineEditor

namespace Utf8

/-! ### Well-formed sequences are the octets of characters -/

theorem toUInt8_of_eq_toNat {n : Nat} {b : UInt8} (h : n = b.toNat) : n.toUInt8 = b := by
  rw [h, Nat.toUInt8, UInt8.ofNat_toNat]

theorem toNat_ofNat_of_valid {n : Nat} (h : n < 0xD800 ∨ 0xDFFF < n ∧ n < 0x110000) :
    (Char.ofNat n).toNat = n := by
  rw [Char.ofNat, dif_pos h]
  rfl

theorem encodeChar_charOf_one {a : UInt8} (ha : a.toNat < 0x80) :
    encodeChar (charOf [a]) = [a] := by
  have hn : (charOf [a]).toNat = a.toNat := toNat_ofNat_of_valid (by omega)
  rw [encodeChar, hn, if_pos ha, toUInt8_of_eq_toNat rfl]

theorem encodeChar_charOf_two {a b : UInt8} (ha : 0xC2 ≤ a.toNat ∧ a.toNat < 0xE0)
    (hb : IsTail b) : encodeChar (charOf [a, b]) = [a, b] := by
  obtain ⟨hlow, hhigh⟩ := hb
  have hn : (charOf [a, b]).toNat = a.toNat % 0x20 * 0x40 + b.toNat % 0x40 :=
    toNat_ofNat_of_valid (by omega)
  rw [encodeChar, hn, if_neg (by omega), if_pos (by omega)]
  rw [toUInt8_of_eq_toNat (b := a) (by omega), toUInt8_of_eq_toNat (b := b) (by omega)]

/-- Among three octets the second one is bounded, lest they stand for too small a number or for a
surrogate. -/
theorem encodeChar_charOf_three {a b c : UInt8} (ha : 0xE0 ≤ a.toNat ∧ a.toNat < 0xF0)
    (hb : allowsSecond a b = true) (hc : IsTail c) : encodeChar (charOf [a, b, c]) = [a, b, c] := by
  rw [allowsSecond_iff] at hb
  obtain ⟨⟨hlow, hhigh⟩, hoverlong, hsurrogate, -, -⟩ := hb
  obtain ⟨hclow, hchigh⟩ := hc
  have hn : (charOf [a, b, c]).toNat =
      a.toNat % 0x10 * 0x1000 + b.toNat % 0x40 * 0x40 + c.toNat % 0x40 :=
    toNat_ofNat_of_valid (by omega)
  rw [encodeChar, hn, if_neg (by omega), if_neg (by omega), if_pos (by omega)]
  rw [toUInt8_of_eq_toNat (b := a) (by omega), toUInt8_of_eq_toNat (b := b) (by omega),
    toUInt8_of_eq_toNat (b := c) (by omega)]

theorem encodeChar_charOf_four {a b c d : UInt8} (ha : 0xF0 ≤ a.toNat ∧ a.toNat < 0xF5)
    (hb : allowsSecond a b = true) (hc : IsTail c) (hd : IsTail d) :
    encodeChar (charOf [a, b, c, d]) = [a, b, c, d] := by
  rw [allowsSecond_iff] at hb
  obtain ⟨⟨hlow, hhigh⟩, -, -, hoverlong, hpast⟩ := hb
  obtain ⟨hclow, hchigh⟩ := hc
  obtain ⟨hdlow, hdhigh⟩ := hd
  have hn : (charOf [a, b, c, d]).toNat =
      a.toNat % 8 * 0x40000 + b.toNat % 0x40 * 0x1000 + c.toNat % 0x40 * 0x40 + d.toNat % 0x40 :=
    toNat_ofNat_of_valid (by omega)
  rw [encodeChar, hn, if_neg (by omega), if_neg (by omega), if_neg (by omega)]
  rw [toUInt8_of_eq_toNat (b := a) (by omega), toUInt8_of_eq_toNat (b := b) (by omega),
    toUInt8_of_eq_toNat (b := c) (by omega), toUInt8_of_eq_toNat (b := d) (by omega)]

/-- What the number of octets tells about the first one. -/
theorem bounds_sequenceLength (lead : UInt8) :
    sequenceLength lead ≤ 4 ∧ (sequenceLength lead = 1 → lead.toNat < 0x80) ∧
      (sequenceLength lead = 2 → 0xC2 ≤ lead.toNat ∧ lead.toNat < 0xE0) ∧
      (sequenceLength lead = 3 → 0xE0 ≤ lead.toNat ∧ lead.toNat < 0xF0) ∧
      (sequenceLength lead = 4 → 0xF0 ≤ lead.toNat ∧ lead.toNat < 0xF5) := by
  rw [sequenceLength_eq]
  grind

/-- A well-formed sequence is how the character is written that it stands for. -/
theorem IsSequence.encodeChar_charOf {s : Octets} (h : IsSequence s) :
    encodeChar (charOf s) = s := by
  cases h with
  | @single a hlength =>
    obtain ⟨-, hone, -⟩ := bounds_sequenceLength a
    exact encodeChar_charOf_one (hone hlength)
  | @longer lead second tails hsecond htails hlength =>
    obtain ⟨hle, -, htwo, hthree, hfour⟩ := bounds_sequenceLength lead
    match tails, htails, hlength with
    | [], _, hlength =>
      exact encodeChar_charOf_two (htwo hlength.symm) ((allowsSecond_iff _ _).mp hsecond).1
    | [c], htails, hlength =>
      exact encodeChar_charOf_three (hthree hlength.symm) hsecond (htails c (by simp))
    | [c, d], htails, hlength =>
      exact encodeChar_charOf_four (hfour hlength.symm) hsecond (htails c (by simp))
        (htails d (by simp))
    | _ :: _ :: _ :: _, _, hlength =>
      simp only [List.length_cons] at hlength
      omega

/-- The well-formed sequences are the octets of the characters. -/
theorem isSequence_iff {s : Octets} : IsSequence s ↔ ∃ c, encodeChar c = s := by
  constructor
  · intro h
    exact ⟨charOf s, h.encodeChar_charOf⟩
  · rintro ⟨c, rfl⟩
    exact (standsFor_encodeChar c).1

theorem isSequence_encodeChar (c : Char) : IsSequence (encodeChar c) :=
  isSequence_iff.mpr ⟨c, rfl⟩

/-- The first octet of a sequence tells its length. -/
theorem IsSequence.length_eq {lead : UInt8} {rest : Octets} (h : IsSequence (lead :: rest)) :
    rest.length + 1 = sequenceLength lead := by
  cases h with
  | single hlength => exact hlength.symm
  | longer hsecond htails hlength => rw [← hlength, List.length_cons]

/-! ### Octets that begin a character -/

/-- The octets begin the octets of a character, or are all of them. -/
def Begins (s : Octets) : Prop := ∃ c, s <+: encodeChar c

/-- The octets begin the octets of a character, and some of those are still to come. -/
def Incomplete (s : Octets) : Prop := ∃ c, s <+: encodeChar c ∧ s ≠ encodeChar c

variable {s t held : Octets} {b : UInt8} {c c' : Char}

theorem Begins.of_prefix (h : Begins t) (hs : s <+: t) : Begins s := by
  obtain ⟨c, hc⟩ := h
  exact ⟨c, hs.trans hc⟩

theorem Incomplete.begins (h : Incomplete s) : Begins s := by
  obtain ⟨c, hc, -⟩ := h
  exact ⟨c, hc⟩

theorem incomplete_nil : Incomplete [] := by
  refine ⟨'a', List.nil_prefix, ?_⟩
  decide

/-- Incomplete octets lack at least one octet of a well-formed sequence. -/
theorem incomplete_iff : Incomplete s ↔ ∃ b rest, IsSequence (s ++ b :: rest) := by
  constructor
  · rintro ⟨c, ⟨rest, hrest⟩, hne⟩
    cases rest with
    | nil => exact absurd ((List.append_nil s).symm.trans hrest) hne
    | cons b rest => exact ⟨b, rest, hrest ▸ isSequence_encodeChar c⟩
  · rintro ⟨b, rest, h⟩
    obtain ⟨c, hc⟩ := isSequence_iff.mp h
    refine ⟨c, hc ▸ List.prefix_append s (b :: rest), ?_⟩
    intro heq
    have hlength := congrArg List.length (heq.trans hc)
    rw [List.length_append, List.length_cons] at hlength
    omega

theorem begins_iff : Begins s ↔ ∃ rest, IsSequence (s ++ rest) := by
  constructor
  · rintro ⟨c, rest, hrest⟩
    exact ⟨rest, hrest ▸ isSequence_encodeChar c⟩
  · rintro ⟨rest, h⟩
    obtain ⟨c, hc⟩ := isSequence_iff.mp h
    exact ⟨c, hc ▸ List.prefix_append s rest⟩

theorem Incomplete.length_le_three (h : Incomplete s) : s.length ≤ 3 := by
  obtain ⟨b, rest, hsequence⟩ := incomplete_iff.mp h
  cases s with
  | nil => exact Nat.zero_le 3
  | cons lead s =>
    rw [List.cons_append] at hsequence
    have hlength := hsequence.length_eq
    have hle := (bounds_sequenceLength lead).1
    rw [List.length_append, List.length_cons] at hlength
    rw [List.length_cons]
    omega

/-- The octets of one character are not the beginning of those of another one. -/
theorem eq_of_prefix_encodeChar (h : encodeChar c <+: encodeChar c') : c = c' := by
  obtain ⟨rest, hrest⟩ := h
  have hdecode := decode_encodeChar c'
  rw [← hrest, decode_append, decode_encodeChar] at hdecode
  have htext := congrArg Prod.snd hdecode
  simp only [List.cons_append, List.nil_append, List.cons.injEq] at htext
  exact htext.1

/-- What begins with the octets of a character and begins a character is that character. -/
theorem eq_of_prefix_encodeChar_of_begins (h : Begins s) (hc : encodeChar c <+: s) :
    s = encodeChar c := by
  obtain ⟨c', hc'⟩ := h
  obtain rfl := eq_of_prefix_encodeChar (hc.trans hc')
  exact hc'.eq_of_length_le hc.length_le

theorem Incomplete.not_prefix_encodeChar (h : Incomplete s) (c : Char) : ¬encodeChar c <+: s := by
  intro hc
  obtain rfl := eq_of_prefix_encodeChar_of_begins h.begins hc
  obtain ⟨c', hc', hne⟩ := h
  obtain rfl := eq_of_prefix_encodeChar hc'
  exact hne rfl

/-! ### One octet -/

/-- A first octet leaves room for some second one. -/
theorem exists_allowsSecond (lead : UInt8) : ∃ second, allowsSecond lead second = true := by
  by_cases hlow : lead = 0xF4
  · exact ⟨0x80, by rw [hlow]; rfl⟩
  · by_cases hhigh : lead = 0xE0
    · exact ⟨0xA0, by rw [hhigh]; rfl⟩
    · refine ⟨0x90, (allowsSecond_iff _ _).mpr ?_⟩
      have hlow' : lead.toNat ≠ 0xF4 := fun h => hlow (UInt8.toNat_inj.mp h)
      have hhigh' : lead.toNat ≠ 0xE0 := fun h => hhigh (UInt8.toNat_inj.mp h)
      have hsecond : (0x90 : UInt8).toNat = 0x90 := rfl
      rw [IsTail, hsecond]
      omega

/-- Two octets that fit together are completed by as many more as are still to come. -/
theorem begins_pair {lead second : UInt8} (hsecond : allowsSecond lead second = true)
    (hlength : 2 ≤ sequenceLength lead) : Begins [lead, second] := by
  have hsequence :
      IsSequence (lead :: second :: List.replicate (sequenceLength lead - 2) 0x80) := by
    refine .longer hsecond ?_ ?_
    · intro b hb
      rw [List.eq_of_mem_replicate hb, IsTail]
      decide
    · rw [List.length_replicate]
      omega
  exact begins_iff.mpr ⟨_, hsequence⟩

/-- One octet begins a character if some sequence has it for its first octet. -/
theorem begins_singleton_iff (b : UInt8) : Begins [b] ↔ sequenceLength b ≠ 0 := by
  rw [begins_iff]
  constructor
  · rintro ⟨rest, h⟩
    have hlength := IsSequence.length_eq h
    omega
  · intro h
    by_cases hone : sequenceLength b = 1
    · exact ⟨[], .single hone⟩
    · obtain ⟨second, hsecond⟩ := exists_allowsSecond b
      have hpair : Begins [b, second] := begins_pair hsecond (by omega)
      exact begins_iff.mp (hpair.of_prefix (List.prefix_append [b] [second]))

/-- What is held and one octet more begin a character if the octet may follow. -/
theorem begins_concat_iff {lead : UInt8} (h : Incomplete (lead :: held)) :
    Begins (lead :: held ++ [b]) ↔ continues (lead :: held) b = true := by
  obtain ⟨b', rest, hsequence⟩ := incomplete_iff.mp h
  rw [begins_iff]
  simp only [List.cons_append, List.append_assoc, List.nil_append] at hsequence ⊢
  cases held with
  | nil =>
    constructor
    · rintro ⟨rest', hsequence'⟩
      cases hsequence' with
      | longer hsecond htails hlength => exact hsecond
    · intro hb
      have hlength := hsequence.length_eq
      simp only [List.nil_append, List.length_cons] at hlength
      exact begins_iff.mp (begins_pair hb (by omega))
  | cons second held =>
    simp only [List.cons_append] at hsequence ⊢
    rw [continues_iff_isTail]
    constructor
    · rintro ⟨rest', hsequence'⟩
      cases hsequence' with
      | longer hsecond htails hlength => exact htails b (by simp)
    · intro hb
      -- the octet may stand where another one would have completed what is held
      cases hsequence with
      | longer hsecond htails hlength =>
        refine ⟨rest, .longer hsecond ?_ (by simpa using hlength)⟩
        intro x hx
        rcases List.mem_append.mp hx with hx | hx
        · exact htails x (List.mem_append_left _ hx)
        · rcases List.mem_cons.mp hx with rfl | hx
          · exact hb
          · exact htails x (List.mem_append_right _ (List.mem_cons_of_mem b' hx))

/-- What one octet does to what is held. It may be held as well, or complete a character; or
nothing can come of it and of what is held, and that is replaced, if anything is held, with the
octet looked at anew. -/
theorem step_cases (h : Incomplete held) (b : UInt8) :
    Incomplete (held ++ [b]) ∧ step held b = (held ++ [b], []) ∨
      (∃ c, encodeChar c = held ++ [b] ∧ step held b = ([], [c])) ∨
      ¬Begins (held ++ [b]) ∧
        step held b =
          if held = [] then ([], [replacement])
          else ((step [] b).1, replacement :: (step [] b).2) := by
  cases held with
  | nil =>
    have hstart : step [] b = stepStart b := rfl
    rw [List.nil_append, begins_singleton_iff, hstart, stepStart, if_pos rfl]
    rcases hlength : sequenceLength b with _ | _ | n
    · simp
    · have hsequence : IsSequence [b] := .single hlength
      exact .inr (.inl ⟨charOf [b], hsequence.encodeChar_charOf, rfl⟩)
    · refine .inl ⟨?_, rfl⟩
      obtain ⟨c, rest, hrest⟩ := (begins_singleton_iff b).mpr (by omega)
      refine ⟨c, ⟨rest, hrest⟩, ?_⟩
      intro heq
      have hone := (heq ▸ isSequence_encodeChar c : IsSequence [b]).length_eq
      rw [hlength, List.length_nil] at hone
      omega
  | cons lead held =>
    rw [begins_concat_iff h]
    by_cases hb : continues (lead :: held) b = true
    · rw [step_continued held hb]
      obtain ⟨c, rest, hrest⟩ := (begins_concat_iff h).mpr hb
      have hlength : (held ++ [b] ++ rest).length + 1 = sequenceLength lead := by
        apply IsSequence.length_eq
        rw [← List.cons_append, ← List.cons_append, hrest]
        exact isSequence_encodeChar c
      simp only [List.length_append, List.length_singleton] at hlength
      cases rest with
      | nil =>
        rw [List.append_nil] at hrest
        rw [if_pos (by simpa using hlength), hrest, (standsFor_encodeChar c).2]
        exact .inr (.inl ⟨c, rfl, rfl⟩)
      | cons b' rest =>
        -- more octets are to come
        rw [List.length_cons] at hlength
        rw [if_neg (by omega)]
        have hsequence : IsSequence (lead :: held ++ [b] ++ b' :: rest) :=
          hrest ▸ isSequence_encodeChar c
        exact .inl ⟨incomplete_iff.mpr ⟨b', rest, hsequence⟩, rfl⟩
    · refine .inr (.inr ⟨hb, ?_⟩)
      have hstart : step [] b = stepStart b := rfl
      rw [if_neg (List.cons_ne_nil lead held), hstart, step, if_neg hb]

/-- What is held is given up when no character can come of it with the next octet. -/
theorem step_of_not_begins (h : Incomplete held) (hnone : ¬Begins (held ++ [b])) :
    step held b =
      if held = [] then ([], [replacement])
      else ((step [] b).1, replacement :: (step [] b).2) := by
  rcases step_cases h b with ⟨hmore, -⟩ | ⟨c, hc, -⟩ | ⟨-, hstep⟩
  · exact absurd hmore.begins hnone
  · exact absurd ⟨c, hc ▸ List.prefix_rfl⟩ hnone
  · exact hstep

/-! ### Segments of a stream -/

/-- The octets `part`, with `rest` behind them, belong to no character. No character stands at their
place, and none can come of what is there; and they are all the octets that could have begun one,
or a single octet. -/
structure MaximalIllFormed (part rest : Octets) : Prop where
  noChar : ∀ c, ¬encodeChar c <+: part ++ rest
  hopeless : ¬Incomplete (part ++ rest)
  begins : part.length = 1 ∨ part ≠ [] ∧ Begins part
  longest : ∀ s, s <+: part ++ rest → Begins s → s.length ≤ part.length

/-- A piece of a stream: the octets of a character, or octets that belong to no character. -/
inductive Segment
  | char (c : Char)
  | illFormed (part : Octets)
  deriving DecidableEq, Repr

/-- What a piece is decoded to. -/
def Segment.decoded : Segment → Char
  | char c => c
  | illFormed _ => replacement

/-- The stream is the octets of the segments one after the other, and behind them octets that
begin a character. -/
inductive Splits : Octets → List Segment → Octets → Prop
  | held {held : Octets} (h : Incomplete held) : Splits held [] held
  | char {stream rest : Octets} {segments : List Segment} {held : Octets} (c : Char)
    (hstream : encodeChar c ++ rest = stream) (hrest : Splits rest segments held) :
    Splits stream (.char c :: segments) held
  | illFormed {stream part rest : Octets} {segments : List Segment} {held : Octets}
    (hstream : part ++ rest = stream) (hpart : MaximalIllFormed part rest)
    (hrest : Splits rest segments held) : Splits stream (.illFormed part :: segments) held

section Segments

variable {stream part part' rest rest' : Octets} {segments segments' : List Segment}
  {held' : Octets}

theorem encodeChar_ne_nil (c : Char) : encodeChar c ≠ [] := by
  intro h
  have hsequence := isSequence_encodeChar c
  rw [h] at hsequence
  cases hsequence

/-- Where no character begins with some octets, none begins with more. -/
theorem length_lt_of_begins {first : Octets} (hfirst : first <+: stream) (hnone : ¬Begins first)
    (hs : s <+: stream) (hbegins : Begins s) : s.length < first.length := by
  apply Nat.lt_of_not_le
  intro hlong
  exact hnone (hbegins.of_prefix (List.prefix_of_prefix_length_le hfirst hs hlong))

/-- An octet that begins no character. -/
theorem maximalIllFormed_singleton (h : ¬Begins [b]) (rest : Octets) :
    MaximalIllFormed [b] rest := by
  have hshort : ∀ s, s <+: [b] ++ rest → Begins s → s.length < 1 :=
    fun s hs hbegins => length_lt_of_begins (List.prefix_append [b] rest) h hs hbegins
  refine ⟨?_, ?_, .inl rfl, fun s hs hbegins => Nat.le_of_lt (hshort s hs hbegins)⟩
  · intro c hc
    have hlength := hshort _ hc ⟨c, List.prefix_rfl⟩
    exact encodeChar_ne_nil c (List.length_eq_zero_iff.mp (by omega))
  · intro hincomplete
    have hlength := hshort _ List.prefix_rfl hincomplete.begins
    rw [List.length_append, List.length_singleton] at hlength
    omega

/-- Octets that could have begun a character, but for the octet behind them. -/
theorem maximalIllFormed_of_concat (hne : held ≠ []) (hheld : Incomplete held)
    (h : ¬Begins (held ++ [b])) (rest : Octets) : MaximalIllFormed held (b :: rest) := by
  have hfirst : held ++ [b] <+: held ++ b :: rest := ⟨rest, (List.append_cons held b rest).symm⟩
  have hshort : ∀ s, s <+: held ++ b :: rest → Begins s → s.length ≤ held.length := by
    intro s hs hbegins
    have hlength := length_lt_of_begins hfirst h hs hbegins
    rw [List.length_append, List.length_singleton] at hlength
    omega
  refine ⟨?_, ?_, .inr ⟨hne, hheld.begins⟩, hshort⟩
  · intro c hc
    have hlength := hshort _ hc ⟨c, List.prefix_rfl⟩
    have hwithin := List.prefix_of_prefix_length_le hc (List.prefix_append held (b :: rest)) hlength
    exact hheld.not_prefix_encodeChar c hwithin
  · intro hincomplete
    have hlength := hshort _ List.prefix_rfl hincomplete.begins
    rw [List.length_append, List.length_cons] at hlength
    omega

theorem MaximalIllFormed.length_pos (h : MaximalIllFormed part rest) : 1 ≤ part.length := by
  rcases h.begins with hone | ⟨hne, -⟩
  · omega
  · exact List.length_pos_iff.mpr hne

/-- Octets that belong to no character are three at most. -/
theorem MaximalIllFormed.length_le_three (h : MaximalIllFormed part rest) : part.length ≤ 3 := by
  rcases h.begins with hone | ⟨-, c, hc⟩
  · omega
  · have hincomplete : Incomplete part := by
      refine ⟨c, hc, ?_⟩
      rintro rfl
      exact h.noChar c (List.prefix_append _ rest)
    exact hincomplete.length_le_three

/-- At one place of a stream there is one way to take out octets that belong to no character. -/
theorem MaximalIllFormed.length_le (h : MaximalIllFormed part rest)
    (h' : MaximalIllFormed part' rest') (hstream : part ++ rest = part' ++ rest') :
    part.length ≤ part'.length := by
  rcases h.begins with hone | ⟨-, hbegins⟩
  · rw [hone]
    exact h'.length_pos
  · exact h'.longest part (hstream ▸ List.prefix_append part rest) hbegins

/-- A stream can be cut in one way only. -/
theorem Splits.unique (h : Splits stream segments held) (h' : Splits stream segments' held') :
    segments = segments' ∧ held = held' := by
  induction h generalizing segments' with
  | held h =>
    cases h' with
    | held h' => exact ⟨rfl, rfl⟩
    | char c hstream hrest =>
      exact absurd (hstream ▸ List.prefix_append _ _) (h.not_prefix_encodeChar c)
    | illFormed hstream hpart hrest => exact absurd (hstream ▸ h) hpart.hopeless
  | @char stream rest segments held c hstream hrest ih =>
    have hc : encodeChar c <+: stream := hstream ▸ List.prefix_append _ _
    cases h' with
    | held h' => exact absurd hc (h'.not_prefix_encodeChar c)
    | @char _ rest' segments' _ c' hstream' hrest' =>
      have hc' : encodeChar c' <+: stream := hstream' ▸ List.prefix_append _ _
      obtain rfl : c = c' := by
        rcases List.prefix_or_prefix_of_prefix hc hc' with hp | hp
        · exact eq_of_prefix_encodeChar hp
        · exact (eq_of_prefix_encodeChar hp).symm
      obtain rfl : rest = rest' := List.append_cancel_left (hstream.trans hstream'.symm)
      obtain ⟨rfl, rfl⟩ := ih hrest'
      exact ⟨rfl, rfl⟩
    | illFormed hstream' hpart hrest' => exact absurd (hstream' ▸ hc) (hpart.noChar c)
  | @illFormed stream part rest segments held hstream hpart hrest ih =>
    cases h' with
    | held h' => exact absurd (hstream ▸ h') hpart.hopeless
    | char c hstream' hrest' =>
      have hc : encodeChar c <+: stream := hstream' ▸ List.prefix_append _ _
      exact absurd (hstream ▸ hc) (hpart.noChar c)
    | @illFormed _ part' rest' segments' _ hstream' hpart' hrest' =>
      have hsame : part ++ rest = part' ++ rest' := hstream.trans hstream'.symm
      have hlength := Nat.le_antisymm (hpart.length_le hpart' hsame)
        (hpart'.length_le hpart hsame.symm)
      obtain ⟨rfl, rfl⟩ := List.append_inj hsame hlength
      obtain ⟨rfl, rfl⟩ := ih hrest'
      exact ⟨rfl, rfl⟩

theorem Splits.incomplete (h : Splits stream segments held) : Incomplete held := by
  induction h with
  | held h => exact h
  | char c hstream hrest ih => exact ih
  | illFormed hstream hpart hrest ih => exact ih

theorem Splits.length_part (h : Splits stream segments held) {part : Octets}
    (hpart : .illFormed part ∈ segments) : 1 ≤ part.length ∧ part.length ≤ 3 := by
  induction h with
  | held h => contradiction
  | char c hstream hrest ih =>
    refine ih ?_
    simpa using hpart
  | illFormed hstream hmaximal hrest ih =>
    rcases List.mem_cons.mp hpart with heq | hpart
    · obtain rfl := Segment.illFormed.inj heq
      exact ⟨hmaximal.length_pos, hmaximal.length_le_three⟩
    · exact ih hpart

end Segments

/-! ### Decoding -/

/-- What is decoded from a stream is what its segments are decoded to, and what is held is what is
left at its end. -/
def DecodesSegments (held octets : Octets) : Prop :=
  ∃ segments, Splits (held ++ octets) segments (decode held octets).1 ∧
    (decode held octets).2 = segments.map Segment.decoded

section Decoding

variable {rest : Octets}

/-- An octet that may be held or completes a character goes on with the segments of the rest. -/
theorem decodesSegments_cons (h : Incomplete held)
    (hrest : ∀ held, Incomplete held → DecodesSegments held rest)
    (hbroken : ¬Begins (held ++ [b]) → DecodesSegments held (b :: rest)) :
    DecodesSegments held (b :: rest) := by
  have hstream : held ++ [b] ++ rest = held ++ b :: rest := (List.append_cons held b rest).symm
  rcases step_cases h b with ⟨hmore, hstep⟩ | ⟨c, hc, hstep⟩ | ⟨hnone, -⟩
  · obtain ⟨segments, hsplits, htext⟩ := hrest _ hmore
    rw [DecodesSegments, decode_cons, hstep, ← hstream]
    exact ⟨segments, hsplits, htext⟩
  · obtain ⟨segments, hsplits, htext⟩ := hrest [] incomplete_nil
    rw [DecodesSegments, decode_cons, hstep, ← hstream, ← hc]
    refine ⟨.char c :: segments, .char c rfl hsplits, ?_⟩
    rw [htext]
    rfl
  · exact hbroken hnone

/-- An octet that comes when nothing is held. -/
theorem decodesSegments_nil_cons (b : UInt8)
    (hrest : ∀ held, Incomplete held → DecodesSegments held rest) :
    DecodesSegments [] (b :: rest) := by
  refine decodesSegments_cons incomplete_nil hrest ?_
  intro hnone
  obtain ⟨segments, hsplits, htext⟩ := hrest [] incomplete_nil
  have hstep : step [] b = ([], [replacement]) := step_of_not_begins incomplete_nil hnone
  rw [DecodesSegments, decode_cons, hstep]
  refine ⟨.illFormed [b] :: segments, ?_, ?_⟩
  · exact .illFormed rfl (maximalIllFormed_singleton hnone rest) hsplits
  · rw [htext]
    rfl

theorem decodesSegments (h : Incomplete held) (octets : Octets) : DecodesSegments held octets := by
  induction octets generalizing held with
  | nil => exact ⟨[], by rw [List.append_nil]; exact .held h, rfl⟩
  | cons b rest ih =>
    have hrest : ∀ held, Incomplete held → DecodesSegments held rest := fun held h => ih h
    cases held with
    | nil => exact decodesSegments_nil_cons b hrest
    | cons lead held =>
      refine decodesSegments_cons h hrest ?_
      intro hnone
      -- what is held makes a segment, and the octet is looked at anew
      obtain ⟨segments, hsplits, htext⟩ := decodesSegments_nil_cons b hrest
      have hmaximal := maximalIllFormed_of_concat (List.cons_ne_nil lead held) h hnone rest
      rw [DecodesSegments, decode_cons, step_of_not_begins h hnone,
        if_neg (List.cons_ne_nil lead held)]
      refine ⟨.illFormed (lead :: held) :: segments, .illFormed rfl hmaximal hsplits, ?_⟩
      rw [decode_cons] at htext
      rw [List.map_cons, ← htext]
      rfl

end Decoding

end Utf8

/-! ### Chunks -/

namespace Decoder

/-- Decodes several chunks, one after the other. -/
def decodeAll : Decoder → List Octets → Decoder × Text
  | d, [] => (d, [])
  | d, chunk :: rest =>
    let (d, first) := d.decode chunk
    let (d, others) := decodeAll d rest
    (d, first ++ others)

theorem decodeAll_eq_decode_flatten (d : Decoder) (chunks : List Octets) :
    d.decodeAll chunks = d.decode chunks.flatten := by
  induction chunks generalizing d with
  | nil =>
    obtain ⟨charset, held⟩ := d
    cases charset <;> rfl
  | cons chunk rest ih => simp only [decodeAll, ih, List.flatten_cons, decode_append]

open Utf8 in
/-- What a new decoder makes of a stream does not depend on how the stream is cut into chunks. After
each chunk it holds three octets at most, which begin a character. What has come so far is cut, in
the one way there is, into the octets of characters and octets that belong to none, one to three at
a time; the text has one character for each piece, and what is left at the end is held. -/
theorem decodeAll_utf8 (chunks : List Octets) :
    let fresh : Decoder := { charset := .utf8 }
    fresh.decodeAll chunks = fresh.decode chunks.flatten ∧
      ∀ before, before <+: chunks →
        let (d, t) := fresh.decodeAll before
        d.held.length ≤ 3 ∧ Incomplete d.held ∧
          ∃ segments, Splits before.flatten segments d.held ∧
            t = segments.map Segment.decoded ∧
            (∀ part, .illFormed part ∈ segments → 1 ≤ part.length ∧ part.length ≤ 3) ∧
            ∀ segments' held', Splits before.flatten segments' held' →
              segments' = segments ∧ held' = d.held := by
  intro fresh
  refine ⟨fresh.decodeAll_eq_decode_flatten chunks, ?_⟩
  intro before _
  rw [fresh.decodeAll_eq_decode_flatten before]
  obtain ⟨segments, hsplits, htext⟩ := decodesSegments incomplete_nil before.flatten
  rw [List.nil_append] at hsplits
  refine ⟨hsplits.incomplete.length_le_three, hsplits.incomplete, segments, hsplits, htext,
    fun part hpart => hsplits.length_part hpart, ?_⟩
  intro segments' held' hsplits'
  exact hsplits'.unique hsplits

open Utf8 in
/-- A character that is broken off by a bracket, an empty chunk, a surrogate in three octets, and
the beginning of a character that comes in two chunks. -/
theorem decodeAll_utf8_broken :
    let fresh : Decoder := { charset := .utf8 }
    let before : List Octets := [[0x61, 0xE2], [], [0x82, 0x28], [0xED, 0xA0, 0x80, 0xF0], [0x9F]]
    let d := (fresh.decodeAll before).1
    before <+: before ++ [[0x98, 0x80]] ∧ d.held = [0xF0, 0x9F] ∧
      (fresh.decodeAll before).2 = "a\uFFFD(\uFFFD\uFFFD\uFFFD".toList ∧
      ∃ segments, Splits before.flatten segments d.held ∧
        (fresh.decodeAll before).2 = segments.map Segment.decoded := by
  intro fresh before d
  have hbegins : before <+: before ++ [[0x98, 0x80]] := List.prefix_append _ _
  obtain ⟨-, -, segments, hsplits, htext, -⟩ :=
    (decodeAll_utf8 (before ++ [[0x98, 0x80]])).2 before hbegins
  exact ⟨hbegins, by decide, by decide, segments, hsplits, htext⟩

end Decoder

end LineEditor
