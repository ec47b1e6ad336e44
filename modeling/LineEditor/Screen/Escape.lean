import LineEditor.Text.Basic

/-!
# Terminal escape sequences

Text meant for a terminal may carry sequences that show nothing. Three forms are known: control
sequences, operating system commands and two-character escapes. An escape character that starts
none of them is text.

## Main definitions

* `Screen.sequenceRest?` reads one sequence after its escape character.
* `Screen.stripEscapes` removes all of them.
-/

namespace LineEditor.Screen

/-- The character that starts a sequence. -/
def escape : Char := '\x1b'

/-- The character that rings the bell and ends an operating system command. -/
def bell : Char := '\x07'

def isParameter (c : Char) : Bool := '0' ≤ c && c ≤ '?'

def isIntermediate (c : Char) : Bool := ' ' ≤ c && c ≤ '/'

def isFinal (c : Char) : Bool := '@' ≤ c && c ≤ '~'

/-- The second character of a two-character escape. -/
def isShort (c : Char) : Bool := ('@' ≤ c && c ≤ 'Z') || ('\\' ≤ c && c ≤ '_')

/-- What follows a control sequence whose introducer has been read: parameters, intermediate
characters and one final character. -/
def controlRest? (t : Text) : Option Text :=
  match (t.dropWhile isParameter).dropWhile isIntermediate with
  | [] => none
  | c :: rest => if isFinal c then some rest else none

/-- What follows an operating system command whose introducer has been read: anything up to a
bell or an escape with a backslash. -/
def commandRest? (t : Text) : Option Text :=
  match t.dropWhile fun c => c ≠ bell && c ≠ escape with
  | [] => none
  | [c] => if c = bell then some [] else none
  | c :: d :: rest =>
    -- an escape ends the command only together with a backslash
    if c = bell then some (d :: rest) else if d = '\\' then some rest else none

/-- What follows the sequence that an escape character in front of the text starts. A command
without an end counts as a two-character escape. -/
def sequenceRest? : Text → Option Text
  | [] => none
  | c :: rest =>
    let long := if c = '[' then controlRest? rest else if c = ']' then commandRest? rest else none
    match long with
    | some r => some r
    | none => if isShort c then some rest else none

theorem length_controlRest? {t r : Text} (h : controlRest? t = some r) :
    r.length < t.length := by
  rw [controlRest?] at h
  have h₁ := (List.dropWhile_sublist isParameter (l := t)).length_le
  have h₂ := (List.dropWhile_sublist isIntermediate (l := t.dropWhile isParameter)).length_le
  split at h
  · simp at h
  · rename_i c rest hd
    split at h
    · simp only [Option.some.injEq] at h
      subst h
      rw [hd, List.length_cons] at h₂
      omega
    · simp at h

theorem length_commandRest? {t r : Text} (h : commandRest? t = some r) :
    r.length < t.length := by
  rw [commandRest?] at h
  have h₁ := (List.dropWhile_sublist (fun c => c ≠ bell && c ≠ escape) (l := t)).length_le
  split at h
  · simp at h
  · rename_i c hd
    rw [hd, List.length_cons, List.length_nil] at h₁
    split at h <;> simp_all
    omega
  · rename_i c d rest hd
    rw [hd, List.length_cons, List.length_cons] at h₁
    split at h
    · simp only [Option.some.injEq] at h
      subst h
      rw [List.length_cons]
      omega
    · split at h
      · simp only [Option.some.injEq] at h
        subst h
        omega
      · simp at h

theorem length_sequenceRest? {t r : Text} (h : sequenceRest? t = some r) :
    r.length < t.length := by
  cases t with
  | nil => simp [sequenceRest?] at h
  | cons c rest =>
    rw [sequenceRest?] at h
    rw [List.length_cons]
    split at h
    · rename_i r' hl
      simp only [Option.some.injEq] at h
      subst h
      split at hl
      · have := length_controlRest? hl; omega
      · split at hl
        · have := length_commandRest? hl; omega
        · simp at hl
    · split at h
      · simp only [Option.some.injEq] at h
        subst h
        omega
      · simp at h

/-- The text without its escape sequences. -/
def stripEscapes : Text → Text
  | [] => []
  | c :: rest =>
    if c = escape then
      match _h : sequenceRest? rest with
      | some after => stripEscapes after
      | none => c :: stripEscapes rest
    else c :: stripEscapes rest
termination_by t => t.length
decreasing_by
  · have := length_sequenceRest? _h
    simp only [List.length_cons]
    omega
  all_goals simp

@[simp]
theorem stripEscapes_nil : stripEscapes [] = [] := by
  rw [stripEscapes]

theorem stripEscapes_cons_of_ne {c : Char} (h : c ≠ escape) (t : Text) :
    stripEscapes (c :: t) = c :: stripEscapes t := by
  rw [stripEscapes, if_neg h]

theorem stripEscapes_of_no_escape {t : Text} (h : escape ∉ t) : stripEscapes t = t := by
  induction t with
  | nil => simp
  | cons c t ih =>
    simp only [List.mem_cons, not_or] at h
    rw [stripEscapes_cons_of_ne (Ne.symm h.1), ih h.2]

end LineEditor.Screen
