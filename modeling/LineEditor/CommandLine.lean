import LineEditor.Text.Basic

/-!
# The command line

The program takes two options with a value each, and may be asked for help or for its version. An
option is written in full, its value either behind an equals sign or as the next argument.

Arguments are looked at from left to right. An option whose value is the next argument is checked
only when the argument after that is an option too, or when the arguments end, and an argument
that is not known is reported before that check.

## Main definitions

* `CommandLine`, `CommandLine.Refusal`.
* `CommandLine.ofArguments`.
-/

namespace LineEditor

/-- What was asked for on the command line. -/
structure CommandLine where
  config : Option Text := none
  logDirectory : Option Text := none
  deriving DecidableEq, Repr

namespace CommandLine

/-- Why the program does not start. -/
inductive Refusal
  | unknownArgument
  /-- An option has no value, or an empty one. -/
  | invalidValue
  /-- An option is there twice. -/
  | conflict
  /-- A value stands where none is taken. -/
  | tooManyValues
  | help
  | version
  deriving DecidableEq, Repr

/-- The options that take a value. -/
inductive ValueOption
  | config
  | logDirectory
  deriving DecidableEq, Repr

/-- All that may stand behind two dashes. -/
inductive LongName
  | valued (o : ValueOption)
  | help
  | version
  deriving DecidableEq, Repr

/-- The names behind two dashes. -/
def longNames : List (String × LongName) :=
  [("config", .valued .config), ("log-dir", .valued .logDirectory), ("help", .help),
    ("version", .version)]

/-- The letters behind one dash. -/
def shortNames : List (Char × Refusal) :=
  [('h', .help), ('V', .version)]

/-- The value of an option, if it was given. -/
def value? (c : CommandLine) : ValueOption → Option Text
  | .config => c.config
  | .logDirectory => c.logDirectory

/-- Gives an option its value. The option must be new and the value not empty. -/
def give (c : CommandLine) (o : ValueOption) (v : Text) : Except Refusal CommandLine :=
  if (c.value? o).isSome then .error .conflict
  else if v.isEmpty then .error .invalidValue
  else
    match o with
    | .config => .ok { c with config := some v }
    | .logDirectory => .ok { c with logDirectory := some v }

/-- An option that was met: it still waits for its value, or the value was the next argument. -/
inductive Pending
  | awaiting (o : ValueOption)
  | received (o : ValueOption) (v : Text)
  deriving DecidableEq, Repr

/-- Settles the option that was met last. -/
def settle (c : CommandLine) : Option Pending → Except Refusal CommandLine
  | none => .ok c
  | some (.awaiting _) => .error .invalidValue
  | some (.received o v) => c.give o v

/-- How an argument is written. -/
inductive Shape
  /-- Two dashes alone end the options. -/
  | terminator
  /-- Two dashes, a name, and perhaps an equals sign and a value. -/
  | long (name : Text) (v : Option Text)
  /-- One dash and letters, of which the first one counts. -/
  | short (letter : Char)
  | word
  deriving DecidableEq, Repr

/-- The name and the value of what stands behind two dashes. -/
def splitValue (t : Text) : Text × Option Text :=
  match t.dropWhile (· ≠ '=') with
  | _ :: v => (t.takeWhile (· ≠ '='), some v)
  | [] => (t, none)

/-- How an argument is written. A dash alone is a word. -/
def Shape.of : Text → Shape
  | ['-', '-'] => .terminator
  | '-' :: '-' :: t => .long (splitValue t).1 (splitValue t).2
  | '-' :: letter :: _ => .short letter
  | _ => .word

/-- Reads arguments behind those that gave `c` and `pending`. -/
def readFrom (c : CommandLine) (pending : Option Pending) :
    List Text → Except Refusal CommandLine
  | [] => c.settle pending
  | argument :: rest =>
    match Shape.of argument with
    | .terminator => if rest.isEmpty then c.settle pending else .error .unknownArgument
    | .long name v =>
      match longNames.lookup (String.ofList name), v with
      -- refused before the option that was met last is settled
      | none, _ => .error .unknownArgument
      | some (.valued o), some v =>
        match c.settle pending with
        | .error e => .error e
        | .ok c =>
          match c.give o v with
          | .error e => .error e
          | .ok c => readFrom c none rest
      | some (.valued o), none =>
        match c.settle pending with
        | .error e => .error e
        | .ok c => readFrom c (some (.awaiting o)) rest
      | some _, some _ => .error .tooManyValues
      | some .help, none =>
        match c.settle pending with
        | .error e => .error e
        | .ok _ => .error .help
      | some .version, none =>
        match c.settle pending with
        | .error e => .error e
        | .ok _ => .error .version
    | .short letter =>
      match shortNames.lookup letter with
      | none => .error .unknownArgument
      | some refusal =>
        match c.settle pending with
        | .error e => .error e
        | .ok _ => .error refusal
    | .word =>
      -- a word is the value of the option in front of it, or of none
      match pending with
      | some (.awaiting o) => readFrom c (some (.received o argument)) rest
      | _ => .error .unknownArgument

/-- Reads the arguments of the program. -/
def ofArguments (arguments : List Text) : Except Refusal CommandLine :=
  readFrom {} none arguments

/-- The directory for logs, which is the working directory unless another one is given. -/
def logDirectoryOrDefault (c : CommandLine) : Text :=
  c.logDirectory.getD ['.']

end CommandLine

end LineEditor
