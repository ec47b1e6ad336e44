import LineEditor.Charset.Utf8
import Mathlib.Tactic.SplitIfs

/-!
# Octets that a text is written in

What is written as a text can be read as a text: decoding its octets one at a time gives the text
back, and nothing is held at the end. A character takes one to four octets, of which the first tells
how many there are. Each of the four cases comes down to the same two facts: the octets are a
well-formed sequence, and their low bits put together are the number of the character.

## Main definitions

* `Utf8.IsTail` — an octet that goes on with a sequence.
* `Utf8.IsSequence` — a well-formed sequence of octets.

## Main results

* `Utf8.IsSequence.decode_eq` — a well-formed sequence is decoded when its last octet comes.
* `Utf8.standsFor_encodeChar`, `Utf8.decode_encodeChar` — the octets of one character.
* `Utf8.decodeStrict?_encode` — the octets of a text.
-/

namespace LineEditor.Utf8

/-! ### Octets as numbers -/

/-- An octet that goes on with a sequence. -/
def IsTail (b : UInt8) : Prop := 0x80 ≤ b.toNat ∧ b.toNat ≤ 0xBF

theorem toNat_toUInt8_of_lt {n : Nat} (h : n < 256) : n.toUInt8.toNat = n := by
  rw [Nat.toUInt8, UInt8.toNat_ofNat', Nat.mod_eq_of_lt h]

theorem sequenceLength_eq (lead : UInt8) :
    sequenceLength lead =
      if lead.toNat < 0x80 then 1
      else if lead.toNat < 0xC2 then 0
      else if lead.toNat < 0xE0 then 2
      else if lead.toNat < 0xF0 then 3
      else if lead.toNat < 0xF5 then 4
      else 0 := by
  simp only [sequenceLength, UInt8.lt_iff_toNat_lt]
  rfl

/-- Four octets leave less room to the one behind them: the rest would be overlong, surrogates, or
past the last character. -/
theorem allowsSecond_iff (lead b : UInt8) :
    allowsSecond lead b = true ↔
      IsTail b ∧ (lead.toNat = 0xE0 → 0xA0 ≤ b.toNat) ∧ (lead.toNat = 0xED → b.toNat ≤ 0x9F) ∧
        (lead.toNat = 0xF0 → 0x90 ≤ b.toNat) ∧ (lead.toNat = 0xF4 → b.toNat ≤ 0x8F) := by
  have hlead (n : UInt8) : lead = n ↔ lead.toNat = n.toNat := UInt8.toNat_inj.symm
  simp only [allowsSecond, IsTail, hlead, UInt8.le_iff_toNat_le, UInt8.reduceToNat]
  split_ifs
  all_goals simp only [Bool.and_eq_true, decide_eq_true_eq]
  all_goals omega

theorem continues_iff_isTail {lead second : UInt8} {held : Octets} {b : UInt8} :
    continues (lead :: second :: held) b = true ↔ IsTail b := by
  simp only [continues, IsTail, UInt8.le_iff_toNat_le, UInt8.reduceToNat, Bool.and_eq_true,
    decide_eq_true_eq]

/-! ### Well-formed sequences -/

/-- A well-formed sequence. Its first octet tells how many there are, and what the second one may
be. -/
inductive IsSequence : Octets → Prop
  | single {a : UInt8} (hlength : sequenceLength a = 1) : IsSequence [a]
  | longer {lead second : UInt8} {tails : Octets} (hsecond : allowsSecond lead second = true)
    (htails : ∀ b ∈ tails, IsTail b) (hlength : tails.length + 2 = sequenceLength lead) :
    IsSequence (lead :: second :: tails)

theorem step_lead {lead : UInt8} (h : 2 ≤ sequenceLength lead) : step [] lead = ([lead], []) := by
  rw [step, stepStart]
  split
  · omega
  · omega
  · rfl

theorem step_continued {lead b : UInt8} (held : Octets)
    (h : continues (lead :: held) b = true) :
    step (lead :: held) b =
      if held.length + 2 = sequenceLength lead then ([], [charOf (lead :: held ++ [b])])
      else (lead :: held ++ [b], []) := by
  simp [step, h]

/-- What is held is completed by octets that go on with it. -/
theorem decode_tails {lead : UInt8} (second : UInt8) (held : Octets) {tails : Octets}
    (hne : tails ≠ []) (htails : ∀ b ∈ tails, IsTail b)
    (hlength : held.length + tails.length + 2 = sequenceLength lead) :
    decode (lead :: second :: held) tails =
      ([], [charOf (lead :: second :: held ++ tails)]) := by
  induction tails generalizing held with
  | nil => contradiction
  | cons b rest ih =>
    rw [List.length_cons] at hlength
    have hb : continues (lead :: second :: held) b = true :=
      continues_iff_isTail.mpr (htails b List.mem_cons_self)
    rw [decode_cons, step_continued _ hb, List.length_cons]
    cases rest with
    | nil =>
      rw [if_pos (by simpa using hlength)]
      rfl
    | cons b' rest =>
      -- more octets are to come, so that this one is held
      rw [if_neg (by rw [List.length_cons] at hlength; omega)]
      have hrest := ih (held ++ [b]) (List.cons_ne_nil b' rest)
        (fun x hx => htails x (List.mem_cons_of_mem b hx))
        (by rw [List.length_append, List.length_singleton]; omega)
      simp only [List.cons_append] at hrest ⊢
      rw [hrest, List.append_assoc, List.singleton_append, List.nil_append]

/-- A well-formed sequence is decoded when its last octet comes. -/
theorem IsSequence.decode_eq {s : Octets} (h : IsSequence s) : decode [] s = ([], [charOf s]) := by
  cases h with
  | @single a hlength =>
    rw [decode_cons, step, stepStart, hlength]
    rfl
  | @longer lead second tails hsecond htails hlength =>
    rw [decode_cons, step_lead (by omega), decode_cons, step_continued [] hsecond]
    cases tails with
    | nil =>
      rw [if_pos hlength]
      rfl
    | cons b rest =>
      rw [if_neg (by rw [List.length_cons] at hlength; rw [List.length_nil]; omega)]
      have htail := decode_tails second [] (List.cons_ne_nil b rest) htails
        (by simpa using hlength)
      simp only [List.cons_append, List.nil_append] at htail ⊢
      rw [htail]

/-! ### The octets of a character -/

theorem ofNat_of_eq_toNat {c : Char} {n : Nat} (h : n = c.toNat) : Char.ofNat n = c := by
  rw [h, Char.ofNat_toNat]

/-- The octets are a well-formed sequence and stand for the character. -/
def StandsFor (s : Octets) (c : Char) : Prop := IsSequence s ∧ charOf s = c

theorem standsFor_one {c : Char} (h : c.toNat < 0x80) : StandsFor [c.toNat.toUInt8] c := by
  have ha : c.toNat.toUInt8.toNat = c.toNat := toNat_toUInt8_of_lt (by omega)
  refine ⟨.single ?_, ofNat_of_eq_toNat ha⟩
  rw [sequenceLength_eq, ha, if_pos h]

theorem standsFor_two {c : Char} (h : ¬c.toNat < 0x80) (h' : c.toNat < 0x800) :
    StandsFor [(0xC0 + c.toNat / 0x40).toUInt8, (0x80 + c.toNat % 0x40).toUInt8] c := by
  have ha := toNat_toUInt8_of_lt (n := 0xC0 + c.toNat / 0x40) (by omega)
  have hb := toNat_toUInt8_of_lt (n := 0x80 + c.toNat % 0x40) (by omega)
  refine ⟨.longer ?_ (by simp) ?_, ?_⟩
  · rw [allowsSecond_iff, IsTail, ha, hb]
    omega
  · rw [sequenceLength_eq, ha]
    rw [if_neg (by omega), if_neg (by omega), if_pos (by omega)]
    rfl
  · rw [charOf, ha, hb, ofNat_of_eq_toNat]
    omega

/-- With three octets the number of the character may be that of a surrogate, but for `hvalid`. -/
theorem standsFor_three {c : Char} (h : ¬c.toNat < 0x800) (h' : c.toNat < 0x10000)
    (hvalid : c.toNat < 0xD800 ∨ 0xDFFF < c.toNat) :
    StandsFor [(0xE0 + c.toNat / 0x1000).toUInt8, (0x80 + c.toNat / 0x40 % 0x40).toUInt8,
      (0x80 + c.toNat % 0x40).toUInt8] c := by
  have ha := toNat_toUInt8_of_lt (n := 0xE0 + c.toNat / 0x1000) (by omega)
  have hb := toNat_toUInt8_of_lt (n := 0x80 + c.toNat / 0x40 % 0x40) (by omega)
  have hd := toNat_toUInt8_of_lt (n := 0x80 + c.toNat % 0x40) (by omega)
  refine ⟨.longer ?_ ?_ ?_, ?_⟩
  · rw [allowsSecond_iff, IsTail, ha, hb]
    omega
  · simp only [List.mem_singleton, forall_eq, IsTail, hd]
    omega
  · rw [sequenceLength_eq, ha]
    rw [if_neg (by omega), if_neg (by omega), if_neg (by omega), if_pos (by omega)]
    rfl
  · rw [charOf, ha, hb, hd, ofNat_of_eq_toNat]
    omega

theorem standsFor_four {c : Char} (h : ¬c.toNat < 0x10000) (h' : c.toNat < 0x110000) :
    StandsFor [(0xF0 + c.toNat / 0x40000).toUInt8, (0x80 + c.toNat / 0x1000 % 0x40).toUInt8,
      (0x80 + c.toNat / 0x40 % 0x40).toUInt8, (0x80 + c.toNat % 0x40).toUInt8] c := by
  have ha := toNat_toUInt8_of_lt (n := 0xF0 + c.toNat / 0x40000) (by omega)
  have hb := toNat_toUInt8_of_lt (n := 0x80 + c.toNat / 0x1000 % 0x40) (by omega)
  have hd := toNat_toUInt8_of_lt (n := 0x80 + c.toNat / 0x40 % 0x40) (by omega)
  have he := toNat_toUInt8_of_lt (n := 0x80 + c.toNat % 0x40) (by omega)
  refine ⟨.longer ?_ ?_ ?_, ?_⟩
  · rw [allowsSecond_iff, IsTail, ha, hb]
    omega
  · simp only [List.mem_cons, List.not_mem_nil, or_false, forall_eq_or_imp, forall_eq, IsTail, hd,
      he]
    omega
  · rw [sequenceLength_eq, ha]
    rw [if_neg (by omega), if_neg (by omega), if_neg (by omega), if_neg (by omega),
      if_pos (by omega)]
    rfl
  · rw [charOf, ha, hb, hd, he, ofNat_of_eq_toNat]
    omega

/-- A character is written in a well-formed sequence that stands for it. -/
theorem standsFor_encodeChar (c : Char) : StandsFor (encodeChar c) c := by
  have hvalid : c.toNat < 0xD800 ∨ 0xDFFF < c.toNat ∧ c.toNat < 0x110000 := c.valid
  rw [encodeChar]
  split_ifs with h1 h2 h3
  · exact standsFor_one h1
  · exact standsFor_two h1 h2
  · exact standsFor_three h2 h3 (hvalid.imp_right And.left)
  · exact standsFor_four h3 (by omega)

/-- The octets of a character are decoded to it, and nothing is held. -/
theorem decode_encodeChar (c : Char) : decode [] (encodeChar c) = ([], [c]) := by
  obtain ⟨hsequence, hchar⟩ := standsFor_encodeChar c
  rw [hsequence.decode_eq, hchar]

/-! ### The octets of a text -/

theorem decode_encode (t : Text) : decode [] (encode t) = ([], t) := by
  induction t with
  | nil => rfl
  | cons c t ih =>
    have hcons : encode (c :: t) = encodeChar c ++ encode t := List.flatMap_cons
    rw [hcons, decode_append, decode_encodeChar, ih, List.singleton_append]

/-- The octets of a text are text, and stand for it. -/
theorem decodeStrict?_encode (t : Text) : decodeStrict? (encode t) = some t := by
  simp [decodeStrict?, decode_encode]

end LineEditor.Utf8
