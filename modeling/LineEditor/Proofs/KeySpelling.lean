import LineEditor.Proofs.ControlSequence

/-!
# Keys and their spellings

A terminal spells keys with few code points, so that different keys may have the same spelling. Ctrl
and a letter make a control code, some of which stand for Enter, Tab and Backspace; an escape starts
the sequences of cursor keys, but stands for Alt as well; and nothing in a spelling tells whether
Shift was held down. A key that is spelled and read again may therefore become another key, or
several, or the beginning of a sequence.

## Main definitions

* `Key.ReadsBack` — what is read from the spelling of a key is this key.
* `Key.HasOwnSpelling` tells which keys these are.

## Main results

* `KeyReader.controlCode_letterOf` — letters and control codes correspond.
* `Key.hasOwnSpelling_of_feed` and `Key.hasOwnSpelling_of_feed_escape` — what is read from one code
  point has a spelling of its own.
* `Key.readsBack_iff` — exactly the keys with a spelling of their own are read back.
-/

namespace LineEditor

namespace Key

/-- What is read from the spelling of the key is this key, and nothing is pending behind it. -/
def ReadsBack (k : Key) : Prop :=
  (({} : KeyReader).feed k.codePoints).2 = [.key k] ∧
    (({} : KeyReader).feed k.codePoints).1.hasPending = false

instance : DecidablePred ReadsBack := fun _ => inferInstanceAs (Decidable (_ ∧ _))

/-- The keys with a spelling of their own. The letters that are missing share theirs with Backspace,
Tab and Enter, the other characters with sequences and control codes. -/
inductive HasOwnSpelling : Key → Prop
  | named {code : KeyCode} (hcode : ∀ c, code ≠ .char c) : HasOwnSpelling (plain code)
  | char {c : Char} (hc : Unicode.isControl c = false) : HasOwnSpelling (char c)
  | ctrlSign {c : Char} (hc : c ∈ [' ', '\\', ']', '^', '_']) : HasOwnSpelling (ctrl c)
  | ctrlLetter {c : Char} (hc : 'a' ≤ c ∧ c ≤ 'z') (hother : c ∉ ['h', 'i', 'j', 'm']) :
    HasOwnSpelling (ctrl c)
  | altBackspace : HasOwnSpelling ⟨.backspace, ⟨false, true, false⟩⟩
  | altEnter : HasOwnSpelling ⟨.enter, ⟨false, true, false⟩⟩
  | alt {c : Char} (hsequence : c ∉ ['[', 'O', '\x1b', '\x7f'])
    (hcontrol : ¬('\x01' ≤ c ∧ c ≤ '\x1a')) : HasOwnSpelling (alt c)
  | ctrlAlt {c : Char} (hc : 'a' ≤ c ∧ c ≤ 'z') (hother : c ∉ ['h', 'm']) :
    HasOwnSpelling ⟨.char c, ⟨true, true, false⟩⟩

end Key

namespace KeyReader

variable {c : Char}

/-! ### Letters and their control codes -/

theorem isLetterCode_iff : isLetterCode c = true ↔ '\x01' ≤ c ∧ c ≤ '\x1a' := by
  simp only [isLetterCode, Bool.and_eq_true, decide_eq_true_eq]
  rfl

theorem ne_of_isLetterCode {d : Char} (hc : isLetterCode c = true) (hd : isLetterCode d = false) :
    c ≠ d := by
  rintro rfl
  exact Bool.false_ne_true (hd.symm.trans hc)

theorem mem_of_isLetterCode (h : isLetterCode c = true) :
    c ∈ (List.range' 1 26).map Char.ofNat := by
  have hrange : 1 ≤ c.toNat ∧ c.toNat ≤ 26 := by simpa [isLetterCode] using h
  exact List.mem_map.mpr ⟨c.toNat, by simp; omega, Char.ofNat_toNat c⟩

/-- A control code of a letter is that of the letter that it stands for. -/
theorem controlCode_letterOf (h : isLetterCode c = true) :
    Key.controlCode (letterOf c) = c ∧ 'a' ≤ letterOf c ∧ letterOf c ≤ 'z' := by
  have hall : ∀ c ∈ (List.range' 1 26).map Char.ofNat,
      Key.controlCode (letterOf c) = c ∧ 'a' ≤ letterOf c ∧ letterOf c ≤ 'z' := by
    simp [List.range', Key.controlCode, letterOf]
  exact hall c (mem_of_isLetterCode h)

/-- Every small letter has a control code, which stands for it. -/
theorem letterOf_controlCode (h : 'a' ≤ c ∧ c ≤ 'z') :
    isLetterCode (Key.controlCode c) = true ∧ letterOf (Key.controlCode c) = c := by
  have hlow : 0x61 ≤ c.toNat := h.1
  have hhigh : c.toNat ≤ 0x7A := h.2
  have hmem : c ∈ (List.range' 0x61 26).map Char.ofNat :=
    List.mem_map.mpr ⟨c.toNat, by simp; omega, Char.ofNat_toNat c⟩
  have hall : ∀ c ∈ (List.range' 0x61 26).map Char.ofNat,
      isLetterCode (Key.controlCode c) = true ∧ letterOf (Key.controlCode c) = c := by
    simp [List.range', Key.controlCode, isLetterCode, letterOf]
  exact hall c hmem

/-! ### One code point, and one behind an escape -/

theorem mode_stepGround (afterReturn : Bool) (h : c ≠ '\x1b') :
    (stepGround afterReturn c).1.mode = .ground := by
  rw [stepGround, if_neg h]
  split_ifs <;> rfl

theorem feed_singleton (h : c ≠ '\x1b') : ({} : KeyReader).feed [c] = stepGround false c := by
  have hmode := mode_stepGround false h
  simp [feed, steps_cons, step, settle, hmode]

theorem feed_escape (h : c ≠ '\x1b') : ({} : KeyReader).feed ['\x1b', c] = stepEscape c := by
  have hmode : (stepEscape c).1.mode ≠ .escape := by
    rw [stepEscape]
    split_ifs <;> exact Mode.noConfusion
  have hsteps : ({} : KeyReader).steps ['\x1b', c] = stepEscape c := by
    simp [steps_cons, step, stepGround]
  simp [feed, hsteps, settle, hmode]

theorem stepGround_of_isLetterCode (hc : isLetterCode c = true)
    (hother : c ∉ ['\x08', '\t', '\n', '\r']) :
    stepGround false c = ({}, [.key (.ctrl (letterOf c))]) := by
  have hne : ∀ d, isLetterCode d = false → c ≠ d := fun _ => ne_of_isLetterCode hc
  simp only [List.mem_cons, List.not_mem_nil, or_false, not_or] at hother
  obtain ⟨hbackspace, htab, hfeed, hreturn⟩ := hother
  rw [stepGround, if_neg (hne _ rfl), if_neg hreturn, if_neg hfeed, if_neg htab,
    if_neg (not_or_intro (hne _ rfl) hbackspace), if_neg (hne _ rfl), if_pos hc]

theorem altKey_of_isLetterCode (hc : isLetterCode c = true) (hother : c ∉ ['\x08', '\r']) :
    altKey c = ⟨.char (letterOf c), ⟨true, true, false⟩⟩ := by
  simp only [List.mem_cons, List.not_mem_nil, or_false, not_or] at hother
  have hdelete : c ≠ '\x7f' := ne_of_isLetterCode hc rfl
  rw [altKey, if_neg (not_or_intro hdelete hother.1), if_neg hother.2, if_pos hc]

end KeyReader

namespace Key

open KeyReader

variable {k : Key} {c : Char}

/-! ### What is read has a spelling of its own -/

theorem hasOwnSpelling_ctrl_letterOf (hc : isLetterCode c = true)
    (hother : c ∉ ['\x08', '\t', '\n', '\r']) : (ctrl (letterOf c)).HasOwnSpelling := by
  obtain ⟨hcode, hletter⟩ := controlCode_letterOf hc
  refine .ctrlLetter hletter fun hmem => hother ?_
  rw [← hcode]
  have hall : ∀ d ∈ ['h', 'i', 'j', 'm'], controlCode d ∈ ['\x08', '\t', '\n', '\r'] := by
    simp [controlCode]
  exact hall _ hmem

theorem hasOwnSpelling_ctrlAlt_letterOf (hc : isLetterCode c = true)
    (hother : c ∉ ['\x08', '\r']) :
    HasOwnSpelling ⟨.char (letterOf c), ⟨true, true, false⟩⟩ := by
  obtain ⟨hcode, hletter⟩ := controlCode_letterOf hc
  refine .ctrlAlt hletter fun hmem => hother ?_
  rw [← hcode]
  have hall : ∀ d ∈ ['h', 'm'], controlCode d ∈ ['\x08', '\r'] := by simp [controlCode]
  exact hall _ hmem

/-- Every key that is read from one code point has a spelling of its own. -/
theorem hasOwnSpelling_of_feed (h : (({} : KeyReader).feed [c]).2 = [.key k]) :
    k.HasOwnSpelling := by
  by_cases hescape : c = '\x1b'
  · subst hescape
    cases h
    exact .named (by simp)
  · rw [feed_singleton hescape, stepGround] at h
    split_ifs at h with hreturn hfeed _ htab hdelete hnull hletter hsign hcontrol
    all_goals cases h
    -- Enter, for a line feed as well, Tab and Backspace
    iterate 4 exact .named (by simp)
    -- the zero code is that of a blank, then come the letters and the other control codes
    · exact .ctrlSign (by decide)
    · refine hasOwnSpelling_ctrl_letterOf hletter ?_
      simp [hreturn, hfeed, htab, not_or.mp hdelete]
    · have hcode : c.toNat = 0x1C ∨ c.toNat = 0x1D ∨ c.toNat = 0x1E ∨ c.toNat = 0x1F := by omega
      refine .ctrlSign ?_
      rcases hcode with hcode | hcode | hcode | hcode <;> rw [hcode] <;> decide
    · exact .char (by simpa using hcontrol)

/-- Every key that is read from an escape and one code point has a spelling of its own. -/
theorem hasOwnSpelling_of_feed_escape
    (h : (({} : KeyReader).feed ['\x1b', c]).2 = [.key k]) : k.HasOwnSpelling := by
  by_cases hescape : c = '\x1b'
  · -- these are two keys
    subst hescape
    cases h
  · rw [feed_escape hescape, stepEscape] at h
    split_ifs at h with hcontrol hshifted
    all_goals cases h
    rw [altKey]
    split_ifs with hbackspace hreturn hletter
    · exact .altBackspace
    · exact .altEnter
    · refine hasOwnSpelling_ctrlAlt_letterOf hletter ?_
      simp [hreturn, not_or.mp hbackspace]
    · refine .alt ?_ (mt isLetterCode_iff.mpr hletter)
      simp [hcontrol, hshifted, hescape, not_or.mp hbackspace]

/-- Of the keys with a name, those without modifiers are read back, and Alt with Backspace or
Enter. -/
theorem hasOwnSpelling_of_readsBack_named {code : KeyCode} {mods : Modifiers}
    (hcode : ∀ c, code ≠ .char c) (h : ReadsBack ⟨code, mods⟩) : HasOwnSpelling ⟨code, mods⟩ := by
  have hcases : mods = {} ∨
      mods = ⟨false, true, false⟩ ∧ (code = .backspace ∨ code = .enter) := by
    obtain ⟨ctrl, alt, shift⟩ := mods
    cases code with
    | char c => exact absurd rfl (hcode c)
    | _ => cases ctrl <;> cases alt <;> cases shift <;> revert h <;> decide
  rcases hcases with rfl | ⟨rfl, rfl | rfl⟩
  · exact .named hcode
  · exact .altBackspace
  · exact .altEnter

theorem HasOwnSpelling.of_readsBack (h : k.ReadsBack) : k.HasOwnSpelling := by
  obtain ⟨code, ctrl, alt, shift⟩ := k
  cases code with
  | char c =>
    -- the character or its control code, perhaps behind an escape
    cases alt with
    | false => cases ctrl <;> exact hasOwnSpelling_of_feed h.1
    | true => cases ctrl <;> exact hasOwnSpelling_of_feed_escape h.1
  | _ => exact hasOwnSpelling_of_readsBack_named nofun h

/-! ### What has a spelling of its own is read back -/

theorem readsBack_named {code : KeyCode} (hcode : ∀ c, code ≠ .char c) :
    (plain code).ReadsBack := by
  cases code with
  | char c => exact absurd rfl (hcode c)
  | _ => decide

theorem readsBack_char (hc : Unicode.isControl c = false) : (char c).ReadsBack := by
  have hescape : c ≠ '\x1b' := by
    rintro rfl
    contradiction
  have hfeed : ({} : KeyReader).feed (char c).codePoints = ({}, [.key (char c)]) :=
    (feed_singleton hescape).trans (stepGround_of_not_isControl false hc)
  rw [ReadsBack, hfeed]
  exact ⟨rfl, rfl⟩

theorem readsBack_ctrl (hc : 'a' ≤ c ∧ c ≤ 'z') (hother : c ∉ ['h', 'i', 'j', 'm']) :
    (ctrl c).ReadsBack := by
  obtain ⟨hcode, hletter⟩ := letterOf_controlCode hc
  have hescape : controlCode c ≠ '\x1b' := ne_of_isLetterCode hcode rfl
  have hsame : controlCode c ∉ ['\x08', '\t', '\n', '\r'] := by
    intro hmem
    have hall : ∀ d ∈ ['\x08', '\t', '\n', '\r'], letterOf d ∈ ['h', 'i', 'j', 'm'] := by
      simp [letterOf]
    exact hother (hletter ▸ hall _ hmem)
  have hfeed : ({} : KeyReader).feed (ctrl c).codePoints = ({}, [.key (ctrl c)]) := by
    refine (feed_singleton hescape).trans ?_
    rw [stepGround_of_isLetterCode hcode hsame, hletter]
  rw [ReadsBack, hfeed]
  exact ⟨rfl, rfl⟩

theorem readsBack_alt (hsequence : c ∉ ['[', 'O', '\x1b', '\x7f'])
    (hcontrol : ¬('\x01' ≤ c ∧ c ≤ '\x1a')) : (alt c).ReadsBack := by
  simp only [List.mem_cons, List.not_mem_nil, or_false, not_or] at hsequence
  obtain ⟨hbracket, hshifted, hescape, hdelete⟩ := hsequence
  have hletter : isLetterCode c = false := Bool.eq_false_iff.mpr (mt isLetterCode_iff.mp hcontrol)
  have hbackspace : c ≠ '\x08' := (ne_of_isLetterCode rfl hletter).symm
  have hreturn : c ≠ '\r' := (ne_of_isLetterCode rfl hletter).symm
  have haltKey : altKey c = alt c := by
    rw [altKey, if_neg (not_or_intro hdelete hbackspace), if_neg hreturn, hletter]
    rfl
  have hfeed : ({} : KeyReader).feed (alt c).codePoints = ({}, [.key (alt c)]) := by
    refine (feed_escape hescape).trans ?_
    rw [stepEscape, if_neg hbracket, if_neg hshifted, if_neg hescape, haltKey]
  rw [ReadsBack, hfeed]
  exact ⟨rfl, rfl⟩

theorem readsBack_ctrlAlt (hc : 'a' ≤ c ∧ c ≤ 'z') (hother : c ∉ ['h', 'm']) :
    ReadsBack ⟨.char c, ⟨true, true, false⟩⟩ := by
  obtain ⟨hcode, hletter⟩ := letterOf_controlCode hc
  have hne : ∀ d, isLetterCode d = false → controlCode c ≠ d := fun _ => ne_of_isLetterCode hcode
  have hsame : controlCode c ∉ ['\x08', '\r'] := by
    intro hmem
    have hall : ∀ d ∈ ['\x08', '\r'], letterOf d ∈ ['h', 'm'] := by simp [letterOf]
    exact hother (hletter ▸ hall _ hmem)
  have hfeed : ({} : KeyReader).feed ['\x1b', controlCode c] =
      ({}, [.key ⟨.char c, ⟨true, true, false⟩⟩]) := by
    rw [feed_escape (hne _ rfl), stepEscape, if_neg (hne _ rfl), if_neg (hne _ rfl),
      if_neg (hne _ rfl), altKey_of_isLetterCode hcode hsame, hletter]
  exact ⟨congrArg Prod.snd hfeed, congrArg (fun after => after.1.hasPending) hfeed⟩

theorem HasOwnSpelling.readsBack (h : k.HasOwnSpelling) : k.ReadsBack := by
  cases h with
  | named hcode => exact readsBack_named hcode
  | char hc => exact readsBack_char hc
  | ctrlSign hc =>
    simp only [List.mem_cons, List.not_mem_nil, or_false] at hc
    rcases hc with rfl | rfl | rfl | rfl | rfl <;> decide
  | ctrlLetter hc hother => exact readsBack_ctrl hc hother
  | altBackspace => decide
  | altEnter => decide
  | alt hsequence hcontrol => exact readsBack_alt hsequence hcontrol
  | ctrlAlt hc hother => exact readsBack_ctrlAlt hc hother

/-- Exactly the keys with a spelling of their own are read back, and none of them is pressed with
Shift. -/
theorem readsBack_iff (k : Key) :
    (k.ReadsBack ↔ k.HasOwnSpelling) ∧ (k.mods.shift = true → ¬k.ReadsBack) := by
  refine ⟨⟨HasOwnSpelling.of_readsBack, HasOwnSpelling.readsBack⟩, ?_⟩
  -- no way to have a spelling of its own has Shift in it
  intro hshift hreads
  cases HasOwnSpelling.of_readsBack hreads <;> contradiction

end Key

end LineEditor
