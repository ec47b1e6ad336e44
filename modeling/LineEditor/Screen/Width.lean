import LineEditor.Screen.Cluster
import LineEditor.Screen.Escape
import LineEditor.Unicode.CellWidth

/-!
# Cells taken by a text

The width of a text is the number of terminal cells it takes once escape sequences are removed,
counted cluster by cluster. Emoji sequences count as two cells whatever they are made of: one
cell too many leaves a blank, one too few makes the cursor drift.

## Main definitions

* `Screen.clusterWidth` and `Screen.visibleWidth`.
-/

namespace LineEditor.Screen

open Unicode (cellWidth)

def isRegional (c : Char) : Bool :=
  0x1F1E6 ≤ c.toNat && c.toNat ≤ 0x1F1FF

/-- The blocks that hold most pictographs. -/
def isPictograph (c : Char) : Bool :=
  (0x1F300 ≤ c.toNat && c.toNat ≤ 0x1FAFF) || (0x2600 ≤ c.toNat && c.toNat ≤ 0x27BF)

def isSkinTone (c : Char) : Bool :=
  0x1F3FB ≤ c.toNat && c.toNat ≤ 0x1F3FF

def zeroWidthJoiner : Char := '\u200D'

/-- Asks for the emoji form of the character before it. -/
def emojiSelector : Char := '\uFE0F'

/-- Encloses the character before it in a key. -/
def keycap : Char := '\u20E3'

/-- Characters that turn the pictograph before them into an emoji. -/
def asksForEmoji (c : Char) : Bool :=
  c == emojiSelector || c == keycap || isSkinTone c

/-- Clusters shown as one wide emoji: flags, joined pictographs, pictographs in emoji form. -/
def isEmoji (cluster : Text) : Bool :=
  cluster.countP isRegional == 2 ||
    (cluster.contains zeroWidthJoiner && 2 ≤ cluster.countP isPictograph) ||
    (cluster.any asksForEmoji && cluster.any isPictograph)

/-- The cells of one cluster. A single character has its own width, a pictograph at least one
cell. In a cluster of several the first one decides, with at least one cell, unless the cluster
is an emoji or a keycap. -/
def clusterWidth : Text → Nat
  | [] => 0
  | [c] => if isPictograph c then max (cellWidth c) 1 else cellWidth c
  | c :: d :: rest =>
    let cluster := c :: d :: rest
    if isEmoji cluster || cluster.getLast? == some keycap then 2 else max (cellWidth c) 1

/-- The cells of a text without its escape sequences. -/
def visibleWidth (t : Text) : Nat :=
  (clusters (stripEscapes t)).foldr (clusterWidth · + ·) 0

@[simp]
theorem visibleWidth_nil : visibleWidth [] = 0 := by
  simp [visibleWidth, clusters]

theorem clusterWidth_of_printable {c : Char} (h : ' ' ≤ c ∧ c ≤ '~') : clusterWidth [c] = 1 := by
  have hpictograph : isPictograph c = false := by
    have hhigh : c.toNat ≤ 0x7E := h.2
    simp [isPictograph]
    omega
  rw [clusterWidth, hpictograph, if_neg Bool.false_ne_true, Unicode.cellWidth_of_printable h.1 h.2]

/-- Printable ASCII characters take one cell each. -/
theorem visibleWidth_of_printable {t : Text} (h : ∀ c ∈ t, ' ' ≤ c ∧ c ≤ '~') :
    visibleWidth t = t.length := by
  have hescape : escape ∉ t := fun hmem => absurd (h escape hmem).1 (by decide)
  rw [visibleWidth, stripEscapes_of_no_escape hescape, clusters_of_printable h]
  clear hescape
  induction t with
  | nil => rfl
  | cons c t ih =>
    obtain ⟨hc, hrest⟩ := List.forall_mem_cons.mp h
    rw [List.map_cons, List.foldr_cons, clusterWidth_of_printable hc, ih hrest, List.length_cons]
    omega

end LineEditor.Screen
