import LineEditor.Toml.Table

/-!
# Scalars of a TOML document

A scalar without quotes is one lexeme: a boolean, a number or a moment. The functions here say what
a lexeme means, or that it means nothing. The form of a number is looked at here. Whether it has
a value that can be kept is another question, and a number without one is a value of its own.

## Main definitions

* `Value.ofLexeme?`.
* `based?`, `decimal?`, `float?`, `moment?` read the kinds of lexemes.
-/

namespace LineEditor.Toml

/-- The signs that end a lexeme, besides blanks and the ends of lines. -/
def structureSigns : List Char := ['=', ',', '[', ']', '\x7b', '\x7d', '#']

/-- The characters of lexemes. -/
def isLexemeChar (c : Char) : Bool :=
  c ∉ structureSigns && c ≠ ' ' && c ≠ '\t' && c ≠ '\r' && c ≠ '\n'

/-! ### Numbers -/

/-- The value of a digit. -/
def digitValue (c : Char) : Nat :=
  if c.isDigit then c.toNat - '0'.toNat else c.toLower.toNat - 'a'.toNat + 10

/-- A digit of numbers in a base, which is at most sixteen. -/
def isDigitOf (base : Nat) (c : Char) : Bool :=
  (c.isDigit || ('a' ≤ c.toLower && c.toLower ≤ 'f')) && digitValue c < base

/-- The number that digits stand for. -/
def numberOf (base : Nat) (digits : Text) : Nat :=
  digits.foldl (fun n c => base * n + digitValue c) 0

/-- The number that a text stands for, if it consists of digits and has some. -/
def numberOf? (base : Nat) (t : Text) : Option Nat :=
  if t ≠ [] ∧ t.all (isDigitOf base) then some (numberOf base t) else none

/-- A sign and what follows it. -/
def splitSign : Text → Bool × Text
  | '-' :: rest => (true, rest)
  | '+' :: rest => (false, rest)
  | t => (false, t)

/-- The text without its underscores. -/
def dropUnderscores (t : Text) : Text := t.filter (· ≠ '_')

/-- Every underscore has a digit on both sides. -/
def areBetweenDigits (base : Nat) (t : Text) : Bool :=
  let groups := Text.splitOn '_' t
  (groups.zip groups.tail).all fun (left, right) =>
    left.getLast?.any (isDigitOf base) && right.head?.any (isDigitOf base)

/-- Digits and underscores in front of a text: the digits among them, and the rest. -/
def splitDigits (t : Text) : Text × Text :=
  let isPart (c : Char) : Bool := c.isDigit || c = '_'
  (dropUnderscores (t.takeWhile isPart), t.dropWhile isPart)

/-- Integers are kept in 128 bits, with or without a sign. -/
def isStorable (n : Int) : Bool :=
  -(Nat.pow 2 127 : Int) ≤ n && n < (Nat.pow 2 128 : Int)

/-- The value of a whole number, for the number if it has digits only. -/
def integerValue : Option Int → Value
  | some n => if isStorable n then .integer n else .invalidNumber
  | none => .invalidNumber

/-- The base that the front of a lexeme names, and what follows. -/
def splitBase? : Text → Option (Nat × Text)
  | '0' :: 'x' :: rest => some (16, rest)
  | '0' :: 'o' :: rest => some (8, rest)
  | '0' :: 'b' :: rest => some (2, rest)
  | _ => none

/-- A whole number in a base of its own. It has no sign and perhaps no digits. -/
def based? (base : Nat) (t : Text) : Option Value :=
  -- underscores are looked at alike in all integers, and the digits by themselves
  if t.all (fun c => isDigitOf base c || c = '_') && areBetweenDigits 16 t then
    some (integerValue ((numberOf? base (dropUnderscores t)).map Int.ofNat))
  else none

/-- A decimal whole number without needless zeros in front. What stands around its underscores
may be a hexadecimal digit, which leaves it without a value. -/
def decimal? (t : Text) : Option Value :=
  let body := (splitSign t).2
  if areBetweenDigits 16 t && (body.length = 1 || body.head? ≠ some '0') then
    let (negative, digits) := splitSign (dropUnderscores t)
    some (integerValue ((numberOf? 10 digits).map fun n => if negative then -(n : Int) else n))
  else none

/-- The parts of a float: its digits before the point, its digits behind, and its exponent. -/
structure FloatParts where
  whole : Text
  fraction : Text
  exponent : Int

/-- The exponent of a float, for what follows its other digits. -/
def exponent? : Text → Option Int
  | [] => some 0
  | e :: rest =>
    let (negative, body) := splitSign rest
    let (digits, rest) := splitDigits body
    if (e = 'e' ∨ e = 'E') ∧ digits ≠ [] ∧ rest = [] then
      some (if negative then -(numberOf 10 digits : Int) else numberOf 10 digits)
    else none

/-- The parts of a float without its sign. There are digits in each part, and no needless zeros
in front. -/
def floatParts? (t : Text) : Option FloatParts :=
  let (whole, rest) := splitDigits t
  if whole = [] ∨ 1 < whole.length ∧ t.head? = some '0' then none
  else
    match rest with
    | '.' :: rest =>
      let (fraction, rest) := splitDigits rest
      if fraction = [] then none else (exponent? rest).map (⟨whole, fraction, ·⟩)
    | rest => (exponent? rest).map (⟨whole, [], ·⟩)

/-- The least number that is rounded up to infinity: it lies half a unit in the last place above
the largest double-precision number. -/
def infinityThreshold : Nat := Nat.pow 2 1024 - Nat.pow 2 970

/-- The number is rounded to infinity. The order of magnitude decides unless it is that of the
threshold. -/
def FloatParts.overflows (p : FloatParts) : Bool :=
  let digits := (p.whole ++ p.fraction).dropWhile (· = '0')
  let exponent := p.exponent - p.fraction.length
  let magnitude := exponent + digits.length
  -- far from the threshold its order of magnitude decides, and no large power is computed
  if digits.isEmpty || magnitude ≤ 308 then false
  else if magnitude > 309 then true
  else
    infinityThreshold * Nat.pow 10 (-exponent).toNat ≤
      numberOf 10 digits * Nat.pow 10 exponent.toNat

/-- A float with a point or an exponent. -/
def float? (t : Text) : Option Value := do
  let parts ← floatParts? (splitSign t).2
  if areBetweenDigits 10 t then
    return if parts.overflows then .invalidNumber else .float t
  else none

/-! ### Dates and times -/

/-- A number of two digits that is at most `limit`: its spelling, and the rest. -/
def pair? (limit : Nat) : Text → Option (Text × Text)
  | a :: b :: rest =>
    if a.isDigit ∧ b.isDigit ∧ numberOf 10 [a, b] ≤ limit then some ([a, b], rest) else none
  | _ => none

/-- The rest behind a character that must stand in front. -/
def behind? (c : Char) (t : Text) : Option Text :=
  if t.head? = some c then some t.tail else none

def isLeapYear (year : Nat) : Bool :=
  year % 4 = 0 && (year % 100 ≠ 0 || year % 400 = 0)

def daysOfMonth (year month : Nat) : Nat :=
  if month = 2 then (if isLeapYear year then 29 else 28)
  else if month ∈ [4, 6, 9, 11] then 30
  else 31

/-- A date: its spelling, and the rest. -/
def date? (t : Text) : Option (Text × Text) := do
  let (century, rest) ← pair? 99 t
  let (years, rest) ← pair? 99 rest
  let (month, rest) ← pair? 12 (← behind? '-' rest)
  let (day, rest) ← pair? 31 (← behind? '-' rest)
  let year := century ++ years
  let number := numberOf 10
  if number month ≠ 0 ∧ number day ≠ 0 ∧ number day ≤ daysOfMonth (number year) (number month) then
    return (year ++ '-' :: month ++ '-' :: day, rest)
  else none

/-- Hours and minutes: their spelling, and the rest. -/
def clock? (t : Text) : Option (Text × Text) := do
  let (hour, rest) ← pair? 23 t
  let (minute, rest) ← pair? 59 (← behind? ':' rest)
  return (hour ++ ':' :: minute, rest)

/-- How many digits of a fraction are kept. -/
def fractionLimit : Nat := 9

/-- The usual spelling of a fraction of a second: no zeros at its end, and no point when nothing is
left behind it. -/
def usualFraction (digits : Text) : Text :=
  match ((digits.take fractionLimit).reverse.dropWhile (· = '0')).reverse with
  | [] => []
  | digits => '.' :: digits

/-- Seconds and their fraction: their usual spelling, and the rest. Without any there are none. -/
def seconds? : Text → Option (Text × Text)
  | ':' :: t => do
    -- a leap second is the last one of a minute
    let (second, rest) ← pair? 60 t
    match rest with
    | '.' :: rest =>
      let digits := rest.takeWhile Char.isDigit
      if digits = [] then none
      else return (second ++ usualFraction digits, rest.dropWhile Char.isDigit)
    | rest => return (second, rest)
  | t => some (['0', '0'], t)

/-- A time of day: its usual spelling, and the rest. -/
def time? (t : Text) : Option (Text × Text) := do
  let (clock, rest) ← clock? t
  let (seconds, rest) ← seconds? rest
  return (clock ++ ':' :: seconds, rest)

/-- The usual spelling of an offset from universal time, or of none. No hours and no minutes are
spelled as a time ahead. -/
def offset? : Text → Option Text
  | [] => some []
  | sign :: t =>
    if t = [] ∧ (sign = 'Z' ∨ sign = 'z') then some ['Z']
    else do
      let (clock, rest) ← clock? t
      if rest = [] ∧ (sign = '+' ∨ sign = '-') then
        return if clock = "00:00".toList then '+' :: clock else sign :: clock
      else none

/-- Whether the text is a date. -/
def isDate (t : Text) : Bool :=
  (date? t).any (·.2 = [])

/-- The usual spelling of a date, a time of day, or both joined with or without an offset. -/
def moment? (t : Text) : Option Text :=
  match date? t with
  | some (date, []) => some date
  | some (date, joint :: rest) => do
    let (time, rest) ← time? rest
    if joint = 'T' ∨ joint = 't' ∨ joint = ' ' then return date ++ 'T' :: time ++ (← offset? rest)
    else none
  | none => do
    let (time, rest) ← time? t
    if rest = [] then return time else none

/-! ### Lexemes -/

/-- The meaning of a lexeme that is not a word. It starts with digits, perhaps behind a sign, and
what follows them tells the kind. -/
def Value.ofDigits? (t : Text) : Option Value :=
  let body := (splitSign t).2
  if !body.head?.any Char.isDigit then none
  else
    match body.dropWhile Char.isDigit with
    | [] => decimal? t
    | c :: rest =>
      if c = '-' ∨ c = ':' then (moment? t).map .moment
      else if (c :: rest).any (· ∈ ['.', 'e', 'E']) then float? t
      else if c = '_' then decimal? t
      else none

/-- What a lexeme means. -/
def Value.ofLexeme? (t : Text) : Option Value :=
  if t = "true".toList then some (.boolean true)
  else if t = "false".toList then some (.boolean false)
  else if (splitSign t).2 ∈ ["inf".toList, "nan".toList] then some (.float t)
  else
    match splitBase? t with
    | some (base, rest) => based? base rest
    | none => ofDigits? t

end LineEditor.Toml
