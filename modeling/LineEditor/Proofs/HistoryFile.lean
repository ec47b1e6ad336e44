import LineEditor.Proofs.Encoding
import LineEditor.Proofs.Retention

/-!
# What comes back from a history file

A history is written with one entry on each line, and read as the lines that are not empty. The two
rules do not fit each other for every entry: an entry with a line break in it comes back in pieces,
one that ends in a return loses it, and an empty one does not come back. Everything else does, in
the same order. The entries that come back are pushed one after the other, which takes nothing away
from entries that were in a history of the same capacity before.

An entry that does not come back as it was cannot be made up for by others. A piece of an entry
holds no line break, so that no entry with one can be among what is read; and if there is none, each
entry has one line, so that what is read is no more than the entries without the returns at their
ends.

## Main definitions

* `Text.IsLine` — a text that comes back when it is written on a line of its own.

## Main results

* `Text.lines_textOfEntries` — the lines of the text that a history is written as.
* `FileSystem.readText_overwrite` — a file that was written can be read back.
* `History.latest_entriesOfText_eq_iff` — which entries come back.
* `History.openFile_save` — the same for a history that is saved and opened again.
-/

namespace LineEditor

namespace Text

/-- A text that comes back when it is written on a line of its own. -/
def IsLine (t : Text) : Prop :=
  t ≠ [] ∧ '\n' ∉ t ∧ t.getLast? ≠ some '\r'

/-! ### Lines of what is written -/

theorem splitOn_textOfEntries (entries : List Text) :
    splitOn '\n' (History.textOfEntries entries) = entries.flatMap (splitOn '\n') ++ [[]] := by
  induction entries with
  | nil => rfl
  | cons entry entries ih =>
    have hcons : History.textOfEntries (entry :: entries) =
        entry ++ '\n' :: History.textOfEntries entries := by
      simp [History.textOfEntries]
    rw [hcons, splitOn_append_cons, ih, List.flatMap_cons, List.append_assoc]

/-- Every piece of an entry is a line, and each of them ends at a line feed. -/
theorem lines_textOfEntries (entries : List Text) :
    lines (History.textOfEntries entries) =
      (entries.flatMap (splitOn '\n')).map dropReturn := by
  simp [lines, splitOn_textOfEntries]

theorem dropReturn_eq_self_iff (t : Text) : dropReturn t = t ↔ t.getLast? ≠ some '\r' := by
  rw [dropReturn]
  constructor
  · intro hsame hreturn
    rw [if_pos hreturn] at hsame
    have hne : t ≠ [] := by
      rintro rfl
      contradiction
    have hlength := congrArg List.length hsame
    have hpos := List.length_pos_iff.mpr hne
    rw [List.length_dropLast] at hlength
    omega
  · intro h
    rw [if_neg h]

theorem mem_of_mem_dropReturn {t : Text} {c : Char} (h : c ∈ dropReturn t) : c ∈ t := by
  rw [dropReturn] at h
  split at h
  · exact (List.dropLast_sublist t).subset h
  · exact h

end Text

namespace History

open Text

/-! ### Which entries come back -/

/-- What is read is neither empty nor broken into lines. -/
theorem of_mem_entriesOfText_textOfEntries {entries : List Text} {entry : Text}
    (h : entry ∈ entriesOfText (textOfEntries entries)) : entry ≠ [] ∧ '\n' ∉ entry := by
  rw [entriesOfText, lines_textOfEntries, List.mem_filter] at h
  obtain ⟨hmem, hne⟩ := h
  obtain ⟨piece, hpiece, rfl⟩ := List.mem_map.mp hmem
  obtain ⟨whole, -, hsplit⟩ := List.mem_flatMap.mp hpiece
  refine ⟨by simpa using hne, ?_⟩
  intro hbreak
  exact not_mem_of_mem_splitOn hsplit (mem_of_mem_dropReturn hbreak)

/-- Without line breaks in the entries each of them has one line. -/
theorem lines_textOfEntries_of_not_mem {entries : List Text} (h : ∀ entry ∈ entries, '\n' ∉ entry) :
    Text.lines (textOfEntries entries) = entries.map dropReturn := by
  rw [lines_textOfEntries]
  congr 1
  induction entries with
  | nil => rfl
  | cons entry entries ih =>
    obtain ⟨hentry, hentries⟩ := List.forall_mem_cons.mp h
    rw [List.flatMap_cons, splitOn_of_not_mem hentry, ih hentries, List.singleton_append]

theorem map_dropReturn_eq_self_iff (entries : List Text) :
    entries.map dropReturn = entries ↔ ∀ entry ∈ entries, entry.getLast? ≠ some '\r' := by
  induction entries with
  | nil => simp
  | cons entry entries ih =>
    rw [List.map_cons, List.cons.injEq, dropReturn_eq_self_iff, ih, List.forall_mem_cons]

/-- Of entries that fit into a history of the same capacity, all come back as they were exactly if
each of them comes back when it is written on a line of its own. -/
theorem latest_entriesOfText_eq_iff {capacity : Nat} {entries : List Text}
    (hlength : entries.length ≤ capacity) (hchain : entries.IsChain (· ≠ ·)) :
    latest capacity (entriesOfText (textOfEntries entries)) = entries ↔
      ∀ entry ∈ entries, IsLine entry := by
  constructor
  · intro hsame entry hmem
    have hsublist : entries.Sublist (entriesOfText (textOfEntries entries)) := by
      have hkept := sublist_latest capacity (entriesOfText (textOfEntries entries))
      rwa [hsame] at hkept
    -- all entries are among what is read, so that they hold no line break
    have hread (entry : Text) (h : entry ∈ entries) :=
      of_mem_entriesOfText_textOfEntries (hsublist.subset h)
    have hlines := lines_textOfEntries_of_not_mem fun entry h => (hread entry h).2
    -- each entry has one line then, so that no line is left for what an entry lacks
    have hmap : entries.Sublist (entries.map dropReturn) := by
      refine hsublist.trans ?_
      rw [entriesOfText, hlines]
      exact List.filter_sublist
    have hequal := hmap.eq_of_length (List.length_map dropReturn).symm
    have hreturn := (map_dropReturn_eq_self_iff entries).mp hequal.symm
    exact ⟨(hread entry hmem).1, (hread entry hmem).2, hreturn entry hmem⟩
  · intro hline
    have hlines := lines_textOfEntries_of_not_mem fun entry h => (hline entry h).2.1
    have hmap := (map_dropReturn_eq_self_iff entries).mpr fun entry h => (hline entry h).2.2
    have hfilter : entries.filter (!·.isEmpty) = entries := by
      rw [List.filter_eq_self]
      intro entry hmem
      simpa using (hline entry hmem).1
    rw [entriesOfText, hlines, hmap, hfilter]
    exact latest_eq_self hlength hchain

end History

/-! ### Reading what was written -/

namespace FileSystem

variable {fs fs' : FileSystem} {path : FilePath} {l : Location}

theorem node?_put_of_ne (fs : FileSystem) {l l' : Location} (h : l' ≠ l) (node : FileNode) :
    (fs.put l node).node? l' = fs.node? l' := by
  have hbeq : (l' == l) = false := by simpa using h
  rw [node?, node?, put, List.lookup_cons, hbeq]
  dsimp only
  rw [lookup_filter_ne _ _ _ h]

/-- The way to a place does not lead through it, unless there is a directory. -/
theorem locateFrom_put {start : Location} (hlocate : fs.locateFrom start path = .ok l)
    (hnot : fs.node? l ≠ some .directory) (node : FileNode) :
    (fs.put l node).locateFrom start path = .ok l := by
  induction path generalizing start with
  | nil => exact hlocate
  | cons name path ih =>
    rw [locateFrom] at hlocate
    split at hlocate
    · contradiction
    · contradiction
    · next hdirectory =>
      have hne : start ≠ l := by
        rintro rfl
        exact hnot hdirectory
      rw [locateFrom, node?_put_of_ne fs hne, hdirectory]
      dsimp only
      split_ifs at hlocate ⊢
      · exact ih hlocate
      · exact ih hlocate
      · exact ih hlocate

theorem locate_put (hlocate : fs.locate path = .ok l) (hnot : fs.node? l ≠ some .directory)
    (node : FileNode) : (fs.put l node).locate path = .ok l := by
  rw [locate] at hlocate ⊢
  split_ifs at hlocate ⊢
  exact locateFrom_put hlocate hnot node

/-- A file that was written stands where its path leads, in place of a file or of nothing. -/
theorem eq_put_of_overwrite {mode : Nat} {content : Octets}
    (h : fs.overwrite path mode content = (fs', none)) :
    ∃ (made : FileSystem) (l : Location), made.locate path = .ok l ∧
      made.node? l ≠ some .directory ∧ fs' = made.put l (.file mode content) := by
  rw [overwrite] at h
  split at h
  · simp at h
  · next made hmade =>
    split at h
    · simp at h
    · next l hlocate =>
      split at h
      · simp at h
      · next hnode =>
        split at h
        · exact ⟨made, l, hlocate, by simp [hnode], (congrArg Prod.fst h).symm⟩
        · simp at h
      · next hnode => exact ⟨made, l, hlocate, by simp [hnode], (congrArg Prod.fst h).symm⟩

/-- A file that was written can be read back, if its owner may read it. -/
theorem readText_overwrite {mode : Nat} {text : Text} (hmode : isReadable mode = true)
    (h : fs.overwrite path mode (Utf8.encode text) = (fs', none)) :
    fs'.readText path = .ok text := by
  obtain ⟨made, l, hlocate, hnot, rfl⟩ := eq_put_of_overwrite h
  have hne : l ≠ [] := by
    rintro rfl
    exact hnot rfl
  rw [readText, locate_put hlocate hnot]
  simp only [node?_put_self made hne, hmode, if_true, Utf8.decodeStrict?_encode]

end FileSystem

/-- The owner of a file may read it exactly if the permission says that it can be read at all. -/
theorem FilePermission.isReadable_mode (p : FilePermission) :
    FileSystem.isReadable p.mode = p.readable := by
  obtain ⟨readable, readableOwnerOnly, writable, writableOwnerOnly, executable,
    executableOwnerOnly⟩ := p
  revert readable readableOwnerOnly writable writableOwnerOnly executable executableOwnerOnly
  decide

namespace History

/-- A history that is opened has room for at least one entry. -/
theorem one_le_of_openFile_eq_ok {fs : FileSystem} {path : FilePath} {capacity : Nat}
    {permission : FilePermission} {h : History}
    (hopen : openFile fs path capacity permission = .ok h) : 1 ≤ capacity := by
  rw [Nat.one_le_iff_ne_zero]
  rintro rfl
  simp [openFile, create] at hopen

/-- A history that is opened stays with its file, and keeps the latest of some texts. -/
theorem keeps_of_openFile_eq_ok {fs : FileSystem} {path : FilePath} {capacity : Nat}
    {permission : FilePermission} {h : History}
    (hopen : openFile fs path capacity permission = .ok h) :
    h.file = some ⟨path, permission⟩ ∧ ∃ texts, h.Keeps capacity texts := by
  have hc := one_le_of_openFile_eq_ok hopen
  cases hread : fs.readText path with
  | ok text =>
    obtain ⟨h', hopen', hfile, hkeeps⟩ := openFile_of_readText_eq_ok hc hread permission
    obtain rfl : h = h' := Except.ok.inj (hopen.symm.trans hopen')
    exact ⟨hfile, _, hkeeps⟩
  | error cause =>
    rw [openFile, create_eq_ok hc] at hopen
    simp only [hread] at hopen
    cases cause with
    | notFound =>
      obtain rfl := Except.ok.inj hopen
      exact ⟨rfl, [], keeps_new capacity _⟩
    | notReadable => contradiction

/-- What a history is saved to is the text of its entries, at the path of its file. -/
theorem overwrite_of_save {h : History} {file : HistoryFile} {fs fs' : FileSystem}
    (hfile : h.file = some file) (hsave : h.save fs = (fs', none)) :
    fs.overwrite file.path file.permission.mode (Utf8.encode (textOfEntries h.entries)) =
      (fs', none) := by
  rw [save, hfile] at hsave
  dsimp only at hsave
  split at hsave
  · next heq =>
    obtain ⟨rfl, -⟩ := Prod.mk.inj hsave
    exact heq
  · simp at hsave
  · simp at hsave

/-- A history that was saved can be opened again from its file, and what is opened holds the same
entries exactly if each of them comes back when it is written on a line of its own: none is empty,
holds a line feed, or ends in a return. The history may have been opened from any file and used in
any way; the path has to be one that can be written, and the file one that its owner may read. -/
theorem openFile_save (fs₀ fs fs' : FileSystem) (path : FilePath) (capacity : Nat)
    (permission permission' : FilePermission) (h₀ : History) (ops : List HistoryOp)
    (hopen : openFile fs₀ path capacity permission = .ok h₀)
    (hreadable : permission.readable = true) (hsave : (h₀.run ops).save fs = (fs', none)) :
    ∃ h, openFile fs' path capacity permission' = .ok h ∧
      (h.entries = (h₀.run ops).entries ↔
        ∀ entry ∈ (h₀.run ops).entries,
          entry ≠ [] ∧ '\n' ∉ entry ∧ entry.getLast? ≠ some '\r') := by
  have hc := one_le_of_openFile_eq_ok hopen
  obtain ⟨hfile, texts, hkeeps⟩ := keeps_of_openFile_eq_ok hopen
  have hwritten := overwrite_of_save ((h₀.file_run ops).trans hfile) hsave
  have hread := FileSystem.readText_overwrite
    (permission.isReadable_mode.trans hreadable) hwritten
  obtain ⟨h, hreopen, -, hback⟩ := openFile_of_readText_eq_ok hc hread permission'
  refine ⟨h, hreopen, ?_⟩
  have hentries := (hkeeps.run hc ops).entries_eq
  have hlength : (h₀.run ops).entries.length ≤ capacity := by
    rw [hentries]
    exact length_latest_le _ _
  have hchain : (h₀.run ops).entries.IsChain (· ≠ ·) := by
    rw [hentries]
    exact isChain_latest _ _
  rw [hback.entries_eq]
  exact latest_entriesOfText_eq_iff hlength hchain

/-- A history of three entries, one of which has no room, is saved in a directory that does not
exist yet and comes back; with an entry of two lines it does not. -/
theorem openFile_save_two :
    let path : FilePath := [['d'], ['h']]
    let plain : List HistoryOp := [.push ['a'], .push ['b', ' '], .previous, .push ['c']]
    let broken : List HistoryOp := plain ++ [.push ['d', '\n', 'e']]
    let h₀ : History := { capacity := 2, file := some ⟨path, {}⟩ }
    (openFile {} path 2 {} = .ok h₀ ∧ ((h₀.run plain).save {}).2 = none ∧
      ((h₀.run broken).save {}).2 = none) ∧
      (∃ h, openFile ((h₀.run plain).save {}).1 path 2 {} = .ok h ∧
        h.entries = [['b', ' '], ['c']]) ∧
      ∃ h, openFile ((h₀.run broken).save {}).1 path 2 {} = .ok h ∧
        h.entries ≠ [['c'], ['d', '\n', 'e']] := by
  intro path plain broken h₀
  have hplain : ((h₀.run plain).save {}).2 = none := by decide
  have hbroken : ((h₀.run broken).save {}).2 = none := by decide
  have hentries : (h₀.run plain).entries = [['b', ' '], ['c']] := by decide
  have hentries' : (h₀.run broken).entries = [['c'], ['d', '\n', 'e']] := by decide
  obtain ⟨h, hopen, hsame⟩ := openFile_save {} {} _ path 2 {} {} h₀ plain rfl rfl
    (Prod.ext rfl hplain)
  obtain ⟨h', hopen', hother⟩ := openFile_save {} {} _ path 2 {} {} h₀ broken rfl rfl
    (Prod.ext rfl hbroken)
  rw [hentries] at hsame
  rw [hentries'] at hother
  refine ⟨⟨rfl, hplain, hbroken⟩, ⟨h, hopen, hsame.mpr (by decide)⟩, h', hopen', ?_⟩
  intro heq
  exact absurd (hother.mp heq) (by decide)

end History

end LineEditor
