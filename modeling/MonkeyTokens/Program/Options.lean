import MonkeyTokens.Text.Utf8

/-!
# Command-line arguments

Arguments are read from left to right.  A value that was given is taken in when the next argument
is taken in, or at the end, so that an argument nobody knows is reported before a fault of the
value just before it.

* `Options` — what the arguments ask for;
* `Usage` — why they ask for nothing that can be done;
* `Argument.classify` — what an argument looks like;
* `Options.parse` — the options of an argument list.
-/

namespace MonkeyTokens

/-- What the arguments ask for. -/
structure Options where
  /-- The file to read. -/
  file : Option Text
  /-- The source given in the arguments themselves. -/
  eval : Option Text
  noColor : Bool
  verbose : Bool
  deriving DecidableEq, Repr

/-- Why arguments are not options. -/
inductive Usage where
  /-- Help is asked for. -/
  | help
  /-- The version is asked for. -/
  | version
  /-- A flag that does not exist, or a second file. -/
  | unknownArgument
  /-- A value for a flag that takes none. -/
  | tooManyValues
  /-- A value is missing, or is empty where it must not be. -/
  | invalidValue
  /-- Something is given twice, or a file and a source are. -/
  | argumentConflict
  deriving DecidableEq, Repr

/-- The exit status for arguments that are not options. -/
def Usage.exitStatus : Usage → Nat
  | help | version => 0
  | unknownArgument | tooManyValues | invalidValue | argumentConflict => 2

/-! ## What an argument looks like -/

/-- The flags that take no value. -/
inductive Flag where
  | noColor
  | verbose
  | help
  | version
  deriving DecidableEq, Repr

/-- An argument before it is taken in. -/
inductive Argument where
  /-- Two hyphens: all that follows are files. -/
  | escape
  | flag (which : Flag)
  /-- A flag with a value it does not take. -/
  | overfull
  /-- The option for a source, with its value if that is attached. -/
  | eval (attached : Option Text)
  /-- Looks like a flag and is none. -/
  | unknown
  /-- A value: of the option before it, or a file. -/
  | plain (value : Text)
  deriving DecidableEq, Repr

namespace Argument

/-- The flag with a long name. -/
def longFlag? (name : Text) : Option Flag :=
  if name = "no-color".toList then some .noColor
  else if name = "verbose".toList then some .verbose
  else if name = "help".toList then some .help
  else if name = "version".toList then some .version
  else none

/-- A long argument, from what follows its two hyphens: a name, and a value after the first equals
    sign. -/
def classifyLong (t : Text) : Argument :=
  let name := t.takeWhile (· ≠ '=')
  let value := (t.dropWhile (· ≠ '=')).tail?
  if name = "eval".toList then .eval value
  else
    match longFlag? name, value with
    | some found, none => .flag found
    | some _, some _ => .overfull
    | none, _ => .unknown

/-- A short argument, from what follows its hyphen.  Only the option for a source goes on with a
    value, and one equals sign before that is not part of it. -/
def classifyShort (letter : Char) (more : Text) : Argument :=
  if letter = 'e' then
    match more with
    | [] => .eval none
    | '=' :: value => .eval (some value)
    | value => .eval (some value)
  else if letter = 'h' then .flag .help
  else if letter = 'V' then .flag .version
  else .unknown

/-- What an argument looks like.  A hyphen alone is a value. -/
def classify : Text → Argument
  | ['-', '-'] => .escape
  | '-' :: '-' :: long => classifyLong long
  | '-' :: letter :: more => classifyShort letter more
  | value => .plain value

end Argument

/-! ## Taking arguments in -/

/-- A value that is given and not taken in. -/
inductive Pending where
  | nothing
  /-- The option for a source, with or without its value. -/
  | eval (value : Option Text)
  | file (value : Text)
  deriving DecidableEq, Repr

namespace Options

/-- Nothing is asked for. -/
def default : Options :=
  ⟨none, none, false, false⟩

/-- Takes in the source. -/
def takeEval (value : Text) (o : Options) : Except Usage Options :=
  if o.eval.isSome then .error .argumentConflict else .ok { o with eval := some value }

/-- Takes in a value that was given. -/
def settle (pending : Pending) (o : Options) : Except Usage Options :=
  match pending with
  | .nothing => .ok o
  | .eval none => .error .invalidValue
  | .eval (some value) => o.takeEval value
  | .file [] => .error .invalidValue
  | .file value => .ok { o with file := some value }

/-- Takes in a flag. -/
def takeFlag (flag : Flag) (o : Options) : Except Usage Options :=
  match flag with
  | .noColor => if o.noColor then .error .argumentConflict else .ok { o with noColor := true }
  | .verbose => if o.verbose then .error .argumentConflict else .ok { o with verbose := true }
  | .help => .error .help
  | .version => .error .version

/-- The arguments read so far. -/
structure Reading where
  options : Options
  pending : Pending
  /-- A file was given. -/
  hasFile : Bool
  /-- Two hyphens were read. -/
  escaped : Bool
  deriving DecidableEq, Repr

namespace Reading

/-- No argument is read. -/
def start : Reading :=
  ⟨.default, .nothing, false, false⟩

/-- Takes a value for a file. -/
def readFile (value : Text) (r : Reading) : Except Usage Reading :=
  if r.hasFile then .error .unknownArgument
  else do
    let options ← r.options.settle r.pending
    return { r with options, pending := .file value, hasFile := true }

/-- Reads an argument that is not after two hyphens. -/
def readArgument (argument : Argument) (r : Reading) : Except Usage Reading :=
  match argument with
  | .escape => .ok { r with escaped := true }
  | .unknown => .error .unknownArgument
  | .overfull => .error .tooManyValues
  | .flag which => do
    let options ← r.options.settle r.pending
    let options ← options.takeFlag which
    return { r with options, pending := .nothing }
  | .eval none => do
    let options ← r.options.settle r.pending
    return { r with options, pending := .eval none }
  | .eval (some value) => do
    let options ← r.options.settle r.pending
    let options ← options.takeEval value
    return { r with options, pending := .nothing }
  | .plain value =>
    if r.pending = .eval none then .ok { r with pending := .eval (some value) }
    else r.readFile value

/-- Reads the next argument. -/
def read (r : Reading) (argument : Text) : Except Usage Reading :=
  if r.escaped then r.readFile argument else r.readArgument (.classify argument)

/-- What all arguments together ask for.  A file and a source exclude each other. -/
def finish (r : Reading) : Except Usage Options := do
  let options ← r.options.settle r.pending
  if options.file.isSome && options.eval.isSome then .error .argumentConflict else .ok options

end Reading

/-- The options of an argument list. -/
def parse (arguments : List Text) : Except Usage Options := do
  let reading ← arguments.foldlM Reading.read Reading.start
  reading.finish

end Options

end MonkeyTokens
