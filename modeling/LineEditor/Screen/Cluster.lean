import LineEditor.Text.Basic
import LineEditor.Unicode.Break

/-!
# Grapheme clusters

What a reader takes for one character may be several code points: a base with marks, a flag, a
family of pictographs, a Hangul syllable, a conjunct. The rules are those of the extended
grapheme clusters of Unicode text segmentation. What they need to know of the text before is
kept in a context, so that boundaries are found in one pass.

## Main definitions

* `ClusterContext` is what the rules need to know of the text so far.
* `ClusterContext.breaksBefore` is the rules.
* `Screen.clusters` is the text cut at its boundaries.
-/

namespace LineEditor.Screen

open Unicode (BreakClass breakClass)

/-- How far a pattern of several characters has been matched. -/
inductive Progress
  | idle
  | begun
  | ready
  deriving DecidableEq, Repr

/-- What the rules need to know of the text before a character: the class of the last one; how
far a conjunct has come, which is ready after a linker; how far a joined pictograph has come,
which is ready after a joiner; and whether an odd number of regional indicators stands at the
end. -/
structure ClusterContext where
  last : BreakClass
  conjunct : Progress
  pictograph : Progress
  oddRegional : Bool
  deriving DecidableEq, Repr

namespace ClusterContext

/-- The conjunct after one more character: a consonant begins one, a linker makes it ready, and
extenders and joiners keep it as it is. -/
def nextConjunct (p : Progress) : BreakClass → Progress
  | .consonant => .begun
  | .linker => if p = .idle then .idle else .ready
  | .extend | .joiner => p
  | _ => .idle

/-- The joined pictograph after one more character: a pictograph begins one, extenders keep it,
and the joiner that follows makes it ready. -/
def nextPictograph (p : Progress) : BreakClass → Progress
  | .pictograph => .begun
  | .extend | .linker | .nonJoiner => if p = .begun then .begun else .idle
  | .joiner => if p = .begun then .ready else .idle
  | _ => .idle

/-- The context after one more character. -/
def next (x : ClusterContext) (b : BreakClass) : ClusterContext where
  last := b
  conjunct := nextConjunct x.conjunct b
  pictograph := nextPictograph x.pictograph b
  oddRegional := b = .regional && !x.oddRegional

/-- The context at the start of a text whose first character has class `b`. -/
def start (b : BreakClass) : ClusterContext :=
  next ⟨.other, .idle, .idle, false⟩ b

/-- Hangul letters that stay in one syllable. -/
def joinsHangul : BreakClass → BreakClass → Bool
  | .hangulL, .hangulL | .hangulL, .hangulV | .hangulL, .hangulLV | .hangulL, .hangulLVT => true
  | .hangulLV, .hangulV | .hangulLV, .hangulT => true
  | .hangulV, .hangulV | .hangulV, .hangulT => true
  | .hangulLVT, .hangulT | .hangulT, .hangulT => true
  | _, _ => false

/-- Whether a boundary stands before a character of class `b`. Line ends and controls stand
alone, except for a return with its line feed. Marks and joiners stay with what is before them,
signs that are prepended with what is after. -/
def breaksBefore (x : ClusterContext) (b : BreakClass) : Bool :=
  match x.last, b with
  -- line ends and controls come first: nothing else extends them
  | .carriageReturn, .lineFeed => false
  | .carriageReturn, _ | .lineFeed, _ | .control, _ => true
  | _, .carriageReturn | _, .lineFeed | _, .control => true
  | _, .extend | _, .nonJoiner | _, .joiner | _, .linker | _, .spacing => false
  | .prepend, _ => false
  -- what is left joins only as part of a longer pattern
  | a, b =>
    !(joinsHangul a b ||
      (b = .consonant && x.conjunct = .ready) ||
      (b = .pictograph && x.pictograph = .ready) ||
      (b = .regional && x.oddRegional))

end ClusterContext

/-- The clusters of a text that continues `current`, the cluster being built. -/
def clustersFrom (x : ClusterContext) (current : Text) : Text → List Text
  | [] => [current]
  | c :: rest =>
    let b := breakClass c
    if x.breaksBefore b then current :: clustersFrom (x.next b) [c] rest
    else clustersFrom (x.next b) (current ++ [c]) rest

/-- The grapheme clusters of a text, in order. -/
def clusters : Text → List Text
  | [] => []
  | c :: rest => clustersFrom (.start (breakClass c)) [c] rest

theorem flatten_clustersFrom (x : ClusterContext) (current t : Text) :
    (clustersFrom x current t).flatten = current ++ t := by
  induction t generalizing x current with
  | nil => simp [clustersFrom]
  | cons c rest ih =>
    rw [clustersFrom]
    split
    · simp [ih]
    · simp [ih]

/-- Cutting a text into clusters loses nothing. -/
@[simp]
theorem flatten_clusters (t : Text) : (clusters t).flatten = t := by
  cases t with
  | nil => rfl
  | cons c rest => simp [clusters, flatten_clustersFrom]

/-- Two characters that join nothing are cut apart. -/
theorem ClusterContext.breaksBefore_other {x : ClusterContext} (h : x.last = .other) :
    x.breaksBefore .other = true := by
  simp [breaksBefore, h, joinsHangul]

theorem clustersFrom_of_printable {x : ClusterContext} (h : x.last = .other) (current : Text)
    {t : Text} (ht : ∀ c ∈ t, ' ' ≤ c ∧ c ≤ '~') :
    clustersFrom x current t = current :: t.map fun c => [c] := by
  induction t generalizing x current with
  | nil => rfl
  | cons c t ih =>
    obtain ⟨hc, hrest⟩ := List.forall_mem_cons.mp ht
    have hclass := Unicode.breakClass_of_printable hc.1 hc.2
    simp only [clustersFrom, hclass, ClusterContext.breaksBefore_other h, if_true]
    rw [ih rfl [c] hrest]
    rfl

/-- Printable ASCII characters stand alone. -/
theorem clusters_of_printable {t : Text} (h : ∀ c ∈ t, ' ' ≤ c ∧ c ≤ '~') :
    clusters t = t.map fun c => [c] := by
  cases t with
  | nil => rfl
  | cons c t =>
    obtain ⟨hc, hrest⟩ := List.forall_mem_cons.mp h
    have hstart : (ClusterContext.start (breakClass c)).last = .other :=
      Unicode.breakClass_of_printable hc.1 hc.2
    exact clustersFrom_of_printable hstart [c] hrest

end LineEditor.Screen
