import MonkeyTokens.Program.Run

/-!
# The command

The program on a real system.  What it does is decided by `Program` and `Piped`; here files are
read, lines are fetched and output is passed on.  A terminal is read line by line as well, and
entries are asked for there.
-/

namespace MonkeyTokens.Main

/-- A number that is given as it is or below zero in 32 bits. -/
def magnitude (code : UInt32) : Nat :=
  min code.toNat (0 - code).toNat

/-- The cause of an error that has a number of its own here. -/
def numbered? : IO.Error → Option OsError
  | .noFileOrDirectory _ code _ | .inappropriateType _ code _ | .permissionDenied _ code _
  | .invalidArgument _ code _ | .resourceExhausted _ code _ | .alreadyExists _ code _ =>
    OsError.ofCode? (magnitude code)
  | _ => none

/-- The cause of an error. -/
def systemError (error : IO.Error) : SystemError :=
  match numbered? error with
  | some cause => .os cause
  | none => .worded (toString error).toList

/-- Does what the system may refuse. -/
def attempt {α : Type} (action : IO α) : IO (Except SystemError α) := do
  try
    return .ok (← action)
  catch error =>
    return .error (systemError error)

/-- The bytes of a file. -/
def readBytes (path : Text) : IO (Except SystemError (List UInt8)) := do
  return (← attempt (IO.FS.readBinFile (String.ofList path))).map (·.toList)

/-- The text of a file. -/
def readText (path : Text) : IO (Except SystemError Text) := do
  match ← readBytes path with
  | .error cause => return .error cause
  | .ok bytes =>
    match Text.decode? bytes with
    | some text => return .ok text
    | none => return .error .notUtf8

/-- Passes on bytes of output and lines of the error channel. -/
def deliver (out : List UInt8) (err : List Text) : IO Unit := do
  let stdout ← IO.getStdout
  stdout.write ⟨out.toArray⟩
  stdout.flush
  let stderr ← IO.getStderr
  for line in err do
    stderr.putStrLn (String.ofList line)

/-- Passes on what a console holds, and goes on with an empty one. -/
def drain (con : Console) : IO Console := do
  deliver con.out.contents con.err
  return .ofSink .unbounded

/-- Passes on what an outcome holds. -/
def conclude (outcome : Program.Outcome) : IO UInt32 := do
  deliver outcome.out.contents outcome.err
  return UInt32.ofNat outcome.exit

/-- A variable of the surroundings. -/
def setting (name : String) : IO (Option Text) := do
  return (← IO.getEnv name).map String.toList

/-- The directory for the data of programs. -/
def dataDirectory : IO Text := do
  match ← setting "XDG_DATA_HOME", ← setting "HOME" with
  | some directory, _ => return directory
  | none, some home => return home ++ "/.local/share".toList
  | none, none => return ['.']

/-- The surroundings of the program. -/
def environment : IO Program.Environment := do
  return {
    user := ← setting "USER"
    userName := ← setting "USERNAME"
    terminal := ← setting "TERM"
    logFilter := ← setting "RUST_LOG"
    store := ⟨← dataDirectory, []⟩ }

/-- The next line of input, empty at its end; none if it is no text. -/
def nextLine (stdin : IO.FS.Stream) : IO (Option (List UInt8)) := do
  try
    let line ← stdin.getLine
    return some line.toUTF8.toList
  catch _ =>
    return none

/-- Reads lines until the session is over. -/
partial def converse (ctx : Context) (asking : Bool) (stdin : IO.FS.Stream) (s : Piped.State) :
    IO (Flow × Piped.State) := do
  let s : Piped.State := ⟨s.unfinished, ← drain s.console⟩
  match ← nextLine stdin with
  | none => return (.fail (.prompt (.system .notUtf8)), s)
  | some [] => return Piped.close s
  | some line =>
    let file ← match Piped.fileNeeded? line s with
      | some path => readText path
      | none => pure (.error (.os .notFound))
    match Piped.feed { ctx with readFile := fun _ => file } asking line s with
    | (.proceed, s) => converse ctx asking stdin s
    | finished => return finished

/-- The files that a start of the prompt finds: the history, or why there is none.  Its directory
    is made first. -/
def historyFiles (store : History.Store) : IO FileTree := do
  let made ← attempt (IO.FS.createDirAll (String.ofList store.directory))
  let writing : FileTree.Writing :=
    match made with
    | .ok () => .free
    | .error (.os cause) => .barred cause
    | .error _ => .barred .notPermitted
  let files : FileTree := { FileTree.empty with writing }
  match ← readBytes store.path with
  | .ok bytes => return files.set store.fileNames (.file bytes)
  | .error (.os .notFound) | .error .notUtf8 | .error .nulInName | .error (.worded _) => return files
  | .error (.os cause) => return files.set store.fileNames (.barred cause)

/-- Saves the history of a session, unless there is nothing to save. -/
def saveHistory (store : History.Store) (history : History) (files : FileTree) :
    IO (Except FileTree.Refused FileTree) := do
  if history.unsaved then
    let bytes := (History.format history.entries).encode
    match ← attempt (IO.FS.writeBinFile (String.ofList store.path) ⟨bytes.toArray⟩) with
    | .ok () => return store.save history files
    | .error cause => return .error ⟨cause, files⟩
  else return .ok files

/-- Runs the prompt. -/
def prompt (ctx : Context) (env : Program.Environment) : IO UInt32 := do
  let start := env.store.restore (← historyFiles env.store)
  let stdin ← IO.getStdin
  let asking := env.asks || (← stdin.isTty)
  let con := (Console.ofSink .unbounded).logAll ctx start.events
  let (flow, s) ← match Piped.start ctx asking env.greeted con with
    | (.proceed, s) => converse ctx asking stdin s
    | finished => pure finished
  match flow with
  | .proceed | .quit =>
    let saved ← saveHistory env.store start.history start.files
    conclude (Program.closeSession ctx env saved s.console)
  | .fail _ | .crash =>
    conclude (Program.endSession ctx env flow start.history start.files s.console)

/-- Runs the program. -/
def run (arguments : List Text) : IO UInt32 := do
  let env ← environment
  let con := Console.ofSink .unbounded
  match Options.parse arguments with
  | .error usage => conclude (Program.answer usage .empty con)
  | .ok options =>
    match env.filter options.verbose with
    | .error _ => conclude (Program.leave Program.crashStatus con .empty)
    | .ok filter =>
      let ctx : Context :=
        { color := !options.noColor, filter, readFile := fun _ => .error (.os .notFound) }
      match options.eval, options.file with
      | some source, _ => conclude (Program.dumpSource ctx source .empty con)
      | none, some path =>
        let file ← readText path
        conclude (Program.dumpFile { ctx with readFile := fun _ => file } path .empty con)
      | none, none => prompt ctx env

end MonkeyTokens.Main

/-- The entry point. -/
def main (arguments : List String) : IO UInt32 :=
  MonkeyTokens.Main.run (arguments.map String.toList)
