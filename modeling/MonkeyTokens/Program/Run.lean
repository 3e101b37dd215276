import MonkeyTokens.History.Store
import MonkeyTokens.Program.Options
import MonkeyTokens.Session.Piped
import MonkeyTokens.Session.Terminal

/-!
# The program

From arguments, surroundings and input to exit status and output.

* `Program.Invocation`, `Program.Outcome` — what the program is given and what it leaves;
* `Program.dumpSource` — the dump of one source, given in the arguments or as a file;
* `Program.runPrompt` — the interactive prompt;
* `Program.run` — the whole program.
-/

namespace MonkeyTokens.Program

/-- The surroundings of the program. -/
structure Environment where
  /-- The variables with the user's name. -/
  user : Option Text
  userName : Option Text
  /-- The variable with the kind of terminal. -/
  terminal : Option Text
  /-- The variable that replaces the log filter. -/
  logFilter : Option Text
  /-- Where the history is kept. -/
  store : History.Store

/-- What is read. -/
inductive Input where
  /-- Bytes that are no terminal. -/
  | piped (bytes : List UInt8)
  /-- What is typed at a terminal, a text at each prompt. -/
  | typed (texts : List Text)
  deriving Repr

/-- What the program is given. -/
structure Invocation where
  arguments : List Text
  environment : Environment
  input : Input
  files : FileTree
  /-- Where output goes. -/
  out : Sink

/-- What can be read as the file of the input. -/
def Invocation.inputBytes (inv : Invocation) : List UInt8 :=
  match inv.input with
  | .piped bytes => bytes
  | .typed _ => inv.files.input

/-- What the system lets be written.  A bound on the size of files that stops the output stops every
    other file as well. -/
def Invocation.writing (inv : Invocation) : FileTree.Writing :=
  match inv.files.writing, inv.out.room, inv.out.refusal with
  | .free, some size, .os .fileTooLarge => .upTo size .fileTooLarge
  | writing, _, _ => writing

/-- The files that the program finds: those it is given, and what is piped in as one more. -/
def Invocation.foundFiles (inv : Invocation) : FileTree :=
  { inv.files with input := inv.inputBytes, writing := inv.writing }

/-- What the program leaves. -/
structure Outcome where
  exit : Nat
  /-- The output. -/
  out : Sink
  /-- The lines on the error channel. -/
  err : List Text
  files : FileTree

/-- The exit status of a program that broke off. -/
def crashStatus : Nat := 101

/-- Ends the program: what is held back of the output is passed on. -/
def leave (exit : Nat) (con : Console) (files : FileTree) : Outcome :=
  ⟨exit, con.out.close, con.err, files⟩

/-- Ends the program with an error. -/
def abort (error : ProgramError) (con : Console) (files : FileTree) : Outcome :=
  leave 1 (con.report error) files

/-! ## One source -/

/-- What is said about illegal characters. -/
def illegalCount (n : Nat) : Text :=
  Console.errorTag ++ ": ".toList ++ Log.number n ++ " illegal character(s) in input".toList

/-- Dumps a source, and fails if any of its characters is illegal. -/
def dumpSource (ctx : Context) (source : Text) (files : FileTree) (con : Console) : Outcome :=
  match con.dump ctx Log.Target.program source with
  | (.error cause, con) => abort (.unwritable cause) con files
  | (.ok summary, con) =>
    leave summary.exitStatus
      (if summary.isClean then con else con.complain (illegalCount summary.illegal.length)) files

/-- A source file is about to be read. -/
def readingFile (path : Text) : Log.Event :=
  { level := .debug
    target := Log.Target.program
    message := "reading source file".toList
    fields := [("path".toList, path)] }

/-- Dumps a file. -/
def dumpFile (ctx : Context) (path : Text) (files : FileTree) (con : Console) : Outcome :=
  let con := con.log ctx (readingFile path)
  match ctx.readFile path with
  | .ok source => dumpSource ctx source files con
  | .error cause => abort (.unreadable path cause) con files

/-! ## The prompt -/

/-- The name in the greeting. -/
def Environment.greeted (env : Environment) : Text :=
  (env.user.or env.userName).getD "there".toList

/-- The kinds of terminal on which entries are asked for even if they are piped. -/
def plainTerminals : List Text :=
  ["dumb".toList, "cons25".toList, "emacs".toList]

/-- Piped entries are asked for. -/
def Environment.asks (env : Environment) : Bool :=
  match env.terminal with
  | some terminal => plainTerminals.any (· = terminal.map Char.toLower)
  | none => false

/-- Ends a session whose history was saved, or could not be. -/
def closeSession (ctx : Context) (env : Environment) (saved : Except FileTree.Refused FileTree)
    (con : Console) : Outcome :=
  match saved with
  | .ok files => leave 0 con files
  | .error refused => leave 0 (con.log ctx (env.store.notSaved refused.cause)) refused.files

/-- Ends a session: the history is saved if it ended as it should. -/
def endSession (ctx : Context) (env : Environment) (flow : Flow) (history : History)
    (files : FileTree) (con : Console) : Outcome :=
  match flow with
  | .fail error => abort error con files
  | .crash => leave crashStatus con files
  | .proceed | .quit => closeSession ctx env (env.store.save history files) con

/-- Runs the prompt: the history is loaded, a session is held on the input, and the history is
    saved.  Only what is typed at a terminal is remembered. -/
def runPrompt (ctx : Context) (env : Environment) (input : Input) (files : FileTree)
    (con : Console) : Outcome :=
  let start := env.store.restore files
  let con := con.logAll ctx start.events
  let ctx := { ctx with readFile := start.files.readText }
  match input with
  | .piped bytes =>
    let (flow, con) := Piped.run ctx env.asks env.greeted bytes con
    endSession ctx env flow start.history start.files con
  | .typed texts =>
    let (flow, history, con) := Terminal.run ctx env.greeted texts start.history con
    endSession ctx env flow history start.files con

/-! ## Arguments -/

/-- The help page. -/
def helpPage : List Text :=
  [ "Tokenize Monkey source code".toList,
    [],
    "Usage: monkey [OPTIONS] [FILE]".toList,
    [],
    "Arguments:".toList,
    "  [FILE]  Monkey file to tokenize".toList,
    [],
    "Options:".toList,
    "  -e, --eval <EVAL>  Tokenize code from the command line".toList,
    "      --no-color     Disable colored output".toList,
    "      --verbose      Enable verbose logging".toList,
    "  -h, --help         Print help".toList,
    "  -V, --version      Print version".toList ]

/-- The line that shows the version. -/
def versionLine : Text :=
  "monkey ".toList ++ Page.programVersion

/-- What is said about arguments that cannot be followed. -/
def Usage.complaint : Usage → Text
  | .help | .version => []
  | .unknownArgument => "error: unexpected argument".toList
  | .tooManyValues => "error: unexpected value".toList
  | .invalidValue => "error: invalid or missing value".toList
  | .argumentConflict => "error: arguments exclude each other".toList

/-- Answers arguments that are not options. -/
def answer (usage : Usage) (files : FileTree) (con : Console) : Outcome :=
  leave usage.exitStatus
    (match usage with
      | .help => (con.say helpPage).2
      | .version => (con.say [versionLine]).2
      | usage => con.complain (Usage.complaint usage))
    files

/-- The log filter without one in the surroundings: warnings and errors of the program, or with
    `verbose` all but its finest events. -/
def ownFilter (verbose : Bool) : Log.Filter :=
  Log.Filter.ownUpTo (if verbose then .debug else .warn)

/-- The log filter: the one in the surroundings, unless it is malformed.  Reading it can fail
    altogether. -/
def Environment.filter (env : Environment) (verbose : Bool) : Except SliceFault Log.Filter :=
  match env.logFilter.map Log.Filter.parse with
  | some (.ok filter) => .ok filter
  | some (.error (.cut fault)) => .error fault
  | some (.error .malformed) | none => .ok (ownFilter verbose)

/-- Runs the program: a source from the arguments is dumped, or else a file, or else entries are
    asked for.  It breaks off at once if the log filter cannot be read. -/
def run (inv : Invocation) : Outcome :=
  let con := Console.ofSink inv.out
  let files := inv.foundFiles
  match Options.parse inv.arguments with
  | .error usage => answer usage files con
  | .ok options =>
    match inv.environment.filter options.verbose with
    | .error _ => leave crashStatus con files
    | .ok filter =>
      let ctx : Context := { color := !options.noColor, filter, readFile := files.readText }
      match options.eval, options.file with
      | some source, _ => dumpSource ctx source files con
      | none, some path => dumpFile ctx path files con
      | none, none => runPrompt ctx inv.environment inv.input files con

end MonkeyTokens.Program
