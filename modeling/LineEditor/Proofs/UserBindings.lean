import LineEditor.Proofs.Decoding
import LineEditor.Settings.Basic
import Mathlib.Data.List.Basic
import Mathlib.Data.List.Induction

/-!
# Bindings that a user has written down

Many written keys stand for the same key, so that what a user has written down may contradict
itself. The entries are gone through in the order of the octets of the written keys, and the last
one that makes sense for a key decides. Those that make no sense might as well not be there.

## Main definitions

* `Settings.Binds` — an entry binds a key of a layer.
* `Bindings.filter` leaves out entries.

## Main results

* `Utf8.encode_lt_encode` — texts are in the order of their octets.
* `Settings.lookup_foldl_addBinding` — the last entry that binds a key decides.
* `Settings.keymap_filter` — entries that bind no key do nothing.
* `Settings.keymap_of_bindings` — the keymap according to the settings.
-/

namespace LineEditor

namespace Utf8

/-! ### The order of texts and of octets -/

/-- Two different characters are told apart by their octets, whatever follows these, and the greater
one has the greater octet at the first place where they differ. -/
theorem encodeChar_append_lt {c d : Char} (h : c < d) (s t : Octets) :
    encodeChar c ++ s < encodeChar d ++ t := by
  have hlt : c.toNat < d.toNat := h
  have hvalid : d.toNat < 0xD800 ∨ 0xDFFF < d.toNat ∧ d.toNat < 0x110000 := d.valid
  have hmax : d.toNat < 0x110000 := by omega
  -- one case for each two numbers of octets, of which that of the smaller one is not greater
  simp only [encodeChar]
  split_ifs
  all_goals
    simp (disch := omega) only [List.cons_append, List.nil_append, List.cons_lt_cons_iff,
      UInt8.lt_iff_toNat_lt, ← UInt8.toNat_inj, toNat_toUInt8_of_lt]
    omega

/-- Texts are in the order of their octets. -/
theorem encode_lt_encode {s t : Text} (h : s < t) : encode s < encode t := by
  induction s generalizing t with
  | nil =>
    cases t with
    | nil => exact absurd h (List.not_lt_nil _)
    | cons d t =>
      have hne : encodeChar d ++ encode t ≠ [] :=
        List.append_ne_nil_of_left_ne_nil (encodeChar_ne_nil d) _
      obtain ⟨b, rest, hcons⟩ := List.exists_cons_of_ne_nil hne
      show [] < encodeChar d ++ encode t
      rw [hcons]
      exact List.nil_lt_cons b rest
  | cons c s ih =>
    cases t with
    | nil => exact absurd h (List.not_lt_nil _)
    | cons d t =>
      rcases List.cons_lt_cons_iff.mp h with hlt | ⟨rfl, hlt⟩
      · exact encodeChar_append_lt hlt _ _
      · exact List.append_left_lt (ih hlt)

end Utf8

namespace Bindings

/-- The entries that are to be kept. -/
def filter (b : Bindings) (keep : Text × Text → Bool) : Bindings :=
  ⟨b.entries.filter keep, b.ordered.filter keep⟩

end Bindings

namespace Settings

/-- The entry binds the key of the layer: its action is known, and its written key is read as this
one. -/
def Binds (known : String → Bool) (layer : Layer) (key : Key) (entry : Text × Text) : Prop :=
  known (String.ofList entry.2) = true ∧ Keymap.readSpec entry.1 = .ok (layer, key)

instance (known : String → Bool) (layer : Layer) (key : Key) (entry : Text × Text) :
    Decidable (Binds known layer key entry) :=
  inferInstanceAs (Decidable (_ ∧ _))

variable {known : String → Bool} {layer layer' : Layer} {key key' : Key} {entry : Text × Text}
  {m : Keymap}

/-! ### One entry -/

/-- An entry binds one key at most. -/
theorem Binds.eq (h : Binds known layer key entry) (h' : Binds known layer' key' entry) :
    (layer, key) = (layer', key') :=
  Except.ok.inj (h.2.symm.trans h'.2)

theorem addBinding_of_binds (m : Keymap) (h : Binds known layer key entry) :
    addBinding known m entry = m.bind layer key (String.ofList entry.2) := by
  obtain ⟨hknown, hread⟩ := h
  simp only [addBinding, hknown, if_true, Keymap.bindSpec, hread]
  rfl

/-- An entry with an unknown action, or with a written key that makes no sense, does nothing. -/
theorem addBinding_of_not_binds (m : Keymap) (h : ∀ layer key, ¬Binds known layer key entry) :
    addBinding known m entry = m := by
  rw [addBinding]
  split
  · next hknown =>
    cases hread : Keymap.readSpec entry.1 with
    | ok place => exact absurd ⟨hknown, hread⟩ (h place.1 place.2)
    | error e =>
      simp only [Keymap.bindSpec, hread]
      rfl
  · rfl

/-- What one entry does to a key. -/
theorem lookup_addBinding (m : Keymap) (layer : Layer) (key : Key) (entry : Text × Text) :
    (addBinding known m entry).lookup layer key =
      if Binds known layer key entry then some (String.ofList entry.2)
      else m.lookup layer key := by
  split
  · next h => rw [addBinding_of_binds m h, Keymap.lookup_bind_self]
  · next h =>
    by_cases hsome : ∃ layer key, Binds known layer key entry
    · obtain ⟨layer', key', hother⟩ := hsome
      have hne : (layer, key) ≠ (layer', key') := by
        rintro heq
        obtain ⟨rfl, rfl⟩ := Prod.mk.inj heq
        exact h hother
      rw [addBinding_of_binds m hother, Keymap.lookup_bind_of_ne m _ hne]
    · rw [addBinding_of_not_binds m fun layer' key' h' => hsome ⟨layer', key', h'⟩]

/-- The names of a keymap stay known: an entry with an unknown action adds none. -/
theorem known_of_mem_actionNames_addBinding (hm : ∀ name ∈ m.actionNames, known name = true)
    (entry : Text × Text) :
    ∀ name ∈ (addBinding known m entry).actionNames, known name = true := by
  by_cases hsome : ∃ layer key, Binds known layer key entry
  · obtain ⟨layer, key, h⟩ := hsome
    intro name hname
    rw [addBinding_of_binds m h] at hname
    rcases List.mem_cons.mp hname with rfl | hrest
    · exact h.1
    · obtain ⟨bound, hbound, rfl⟩ := List.mem_map.mp hrest
      exact hm _ (List.mem_map_of_mem (List.mem_filter.mp hbound).1)
  · rwa [addBinding_of_not_binds m fun layer key h => hsome ⟨layer, key, h⟩]

/-- The actions that a mode starts with are known to the registry of all actions. -/
theorem contains_of_mem_actionNames_ofMode (mode : EditMode) :
    ∀ name ∈ (Keymap.ofMode mode).actionNames, ActionRegistry.builtin.contains name = true := by
  cases mode <;> decide

/-! ### All entries -/

/-- The last entry that binds a key decides what the key is bound to. -/
theorem lookup_foldl_addBinding (m : Keymap) (entries : List (Text × Text)) (layer : Layer)
    (key : Key) :
    (entries.foldl (addBinding known) m).lookup layer key =
      ((entries.filter (Binds known layer key ·)).getLast?.map (String.ofList ·.2)).or
        (m.lookup layer key) := by
  induction entries using List.reverseRecOn with
  | nil => rfl
  | append_singleton entries entry ih =>
    rw [List.foldl_concat, lookup_addBinding, List.filter_append, List.filter_singleton]
    split
    · next h => simp [h]
    · next h => simp [h, ih]

theorem known_of_mem_actionNames_foldl (hm : ∀ name ∈ m.actionNames, known name = true)
    (entries : List (Text × Text)) :
    ∀ name ∈ (entries.foldl (addBinding known) m).actionNames, known name = true := by
  induction entries generalizing m with
  | nil => exact hm
  | cons entry rest ih => exact ih (known_of_mem_actionNames_addBinding hm entry)

/-- Leaving out entries that bind no key does not change the keymap. -/
theorem keymap_filter (s : Settings) {keep : Text × Text → Bool}
    (hkeep : ∀ entry ∈ s.bindings.entries, ∀ layer key, Binds known layer key entry →
      keep entry = true) :
    ({ s with bindings := s.bindings.filter keep } : Settings).keymap known = s.keymap known := by
  show (s.bindings.entries.filter keep).foldl (addBinding known) _ =
    s.bindings.entries.foldl (addBinding known) _
  generalize Keymap.ofMode s.editing.mode = m
  generalize s.bindings.entries = entries at hkeep
  induction entries generalizing m with
  | nil => rfl
  | cons entry rest ih =>
    obtain ⟨hentry, hrest⟩ := List.forall_mem_cons.mp hkeep
    by_cases hkept : keep entry = true
    · rw [List.filter_cons_of_pos hkept]
      exact ih _ hrest
    · have hnone : addBinding known m entry = m :=
        addBinding_of_not_binds m fun layer key h => hkept (hentry layer key h)
      rw [List.filter_cons_of_neg hkept, List.foldl_cons, hnone]
      exact ih m hrest

/-- The keymap according to the settings, if the actions that a mode starts with are known. The
entries are in the order of the octets of the written keys. A key of a layer is bound to the action
of the last one of those that bind it, and to what the mode binds it to when there are none. The
entries that bind no key, for want of a known action or of a written key that makes sense, may be
left out, all or some. All names in the keymap are known. -/
theorem keymap_of_bindings (s : Settings) (known : String → Bool)
    (hknown : ∀ name ∈ (Keymap.ofMode s.editing.mode).actionNames, known name = true) :
    (s.bindings.entries.Pairwise fun e e' => Utf8.encode e.1 < Utf8.encode e'.1) ∧
      (∀ layer key, (s.keymap known).lookup layer key =
        ((s.bindings.entries.filter (Binds known layer key ·)).getLast?.map
          (String.ofList ·.2)).or ((Keymap.ofMode s.editing.mode).lookup layer key)) ∧
      (∀ keep : Text × Text → Bool,
        (∀ e ∈ s.bindings.entries, ∀ layer key, Binds known layer key e → keep e = true) →
          ({ s with bindings := s.bindings.filter keep } : Settings).keymap known =
            s.keymap known) ∧
      ∀ name ∈ (s.keymap known).actionNames, known name = true :=
  ⟨s.bindings.ordered.imp Utf8.encode_lt_encode, lookup_foldl_addBinding _ _,
    fun _ hkeep => s.keymap_filter hkeep, known_of_mem_actionNames_foldl hknown _⟩

/-- Three ways to write Ctrl and a, of which the last one has an action that nobody knows, next to
a key and an action that make no sense. -/
theorem keymap_of_bindings_contradicting :
    let s : Settings :=
      { editing := { mode := .vi }
        bindings := .ofList
          [("insert:ctrl-a".toList, "launch".toList), ("ctrl-a".toList, "undo".toList),
            ("hyper-a".toList, "yank".toList), ("C-A".toList, "complete".toList),
            ("command:x".toList, "launch".toList)] }
    let known := ActionRegistry.builtin.contains
    let keep : Text × Text → Bool := fun e => e.2 ≠ "launch".toList
    (∀ name ∈ (Keymap.ofMode s.editing.mode).actionNames, known name = true) ∧
      (s.keymap known).lookup .insert (.ctrl 'a') = some "undo" ∧
      (s.keymap known).lookup .command (.char 'x') = some "delete-char" ∧
      ({ s with bindings := s.bindings.filter keep } : Settings).keymap known =
        s.keymap known := by
  intro s known keep
  have hknown : ∀ name ∈ (Keymap.ofMode s.editing.mode).actionNames, known name = true :=
    contains_of_mem_actionNames_ofMode s.editing.mode
  obtain ⟨-, hlookup, hfilter, -⟩ := keymap_of_bindings s known hknown
  refine ⟨hknown, ?_, ?_, hfilter keep ?_⟩
  · rw [hlookup]
    decide
  · rw [hlookup]
    decide
  · intro e _ layer key hbinds
    refine decide_eq_true fun hlaunch => ?_
    rw [Binds, hlaunch] at hbinds
    exact absurd hbinds.1 (by decide)

end Settings

end LineEditor
