import MonkeyTokens.History.File
import MonkeyTokens.Program.Console
import MonkeyTokens.System.Files

/-!
# Keeping the history

The history outlives the program in a file below the data directory.  Nothing about it is fatal:
what fails is logged.

* `History.Store` — where the file is;
* `History.Store.restore` — makes the directory and loads the file;
* `History.Store.save` — writes the file if there is something to save.
-/

namespace MonkeyTokens.History

/-- Where the history is kept. -/
structure Store where
  /-- The data directory, as it is shown. -/
  shown : Text
  /-- The names that lead from the working directory to the data directory. -/
  names : List Text
  deriving Repr

namespace Store

/-- The name of the program's directory. -/
def directoryName : Text :=
  "monkey".toList

/-- The name of the history file. -/
def fileName : Text :=
  ".monkey_history".toList

/-- The directory of the history file, as it is shown. -/
def directory (s : Store) : Text :=
  s.shown ++ ['/'] ++ directoryName

/-- The history file, as it is shown. -/
def path (s : Store) : Text :=
  s.directory ++ ['/'] ++ fileName

/-- The names that lead to the directory of the history file. -/
def directoryNames (s : Store) : List Text :=
  s.names ++ [directoryName]

/-- The names that lead to the history file. -/
def fileNames (s : Store) : List Text :=
  s.directoryNames ++ [fileName]

/-- An event about a place and what went wrong there. -/
def failure (level : Log.Level) (message path : Text) (cause : SystemError) : Log.Event :=
  { level
    target := Log.Target.prompt
    message
    fields := [("path".toList, path), ("error".toList, cause.message)] }

/-- The directory cannot be made. -/
def noDirectory (s : Store) (cause : SystemError) : Log.Event :=
  failure .debug "cannot create history directory".toList s.directory cause

/-- The file cannot be loaded. -/
def notLoaded (s : Store) (cause : SystemError) : Log.Event :=
  failure .debug "no history loaded".toList s.path cause

/-- The file cannot be written. -/
def notSaved (s : Store) (cause : SystemError) : Log.Event :=
  failure .warn "failed to save history".toList s.path cause

/-- A line of the file is no written entry. -/
def malformedLine (line : Text) : Log.Event :=
  { level := .warn
    target := Log.Target.lineEditor
    message := "bad escaped line: ".toList ++ line
    fields := []
    unshown := Log.forwardedFields }

/-- What a start finds. -/
structure Restored where
  history : History
  files : FileTree
  events : List Log.Event

/-- What a start finds once it is settled whether there is a directory, after what was logged about
    that: the file is loaded if it can be read. -/
def opened (s : Store) (files : FileTree) (logged : List Log.Event) : Restored :=
  match files.readNamed s.fileNames with
  | .error cause => ⟨.empty, files, logged ++ [s.notLoaded cause]⟩
  | .ok bytes =>
    let file := decode bytes
    let broken := if file.broken then [s.notLoaded .notUtf8] else []
    ⟨load file, files, logged ++ file.malformed.map malformedLine ++ broken⟩

/-- Makes the directory if need be, and loads the file. -/
def restore (s : Store) (files : FileTree) : Restored :=
  match files.makeDirectory s.directoryNames with
  | (none, files) => s.opened files []
  | (some cause, files) => s.opened files [s.noDirectory (.os cause)]

/-- Writes the file, unless there is nothing to save. -/
def save (s : Store) (h : History) (files : FileTree) : Except FileTree.Refused FileTree :=
  if h.unsaved then files.write s.directoryNames fileName (format h.entries).encode else .ok files

end Store

end MonkeyTokens.History
