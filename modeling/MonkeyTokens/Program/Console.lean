import MonkeyTokens.Dump
import MonkeyTokens.Program.Error
import MonkeyTokens.Program.LogFilter

/-!
# The console

What the program writes on its two output channels, and how it goes on afterwards.

* `Console` — output by lines, and the lines on the error channel;
* `Context` — what does not change while the program runs;
* `Flow` — how the program goes on: failing to write a line it has to write stops it;
* `Console.say`, `report`, `log`, `dump` — the ways of writing.
-/

namespace MonkeyTokens

/-- The two output channels. -/
structure Console where
  out : LineWriter
  /-- The lines on the error channel, without the line feed that ends each. -/
  err : List Text
  deriving Repr

/-- What does not change while the program runs. -/
structure Context where
  /-- Dumps and lines are shown in color. -/
  color : Bool
  /-- The events that are logged. -/
  filter : Log.Filter
  /-- How the text of a file is had. -/
  readFile : Text → Except SystemError Text

/-- How the program goes on. -/
inductive Flow where
  | proceed
  /-- It ends as it should. -/
  | quit
  /-- It ends with an error. -/
  | fail (error : ProgramError)
  /-- It breaks off. -/
  | crash
  deriving DecidableEq, Repr

namespace Log.Target

/-- The program as a whole. -/
def program : Text := "monkey".toList

/-- Dumps. -/
def dump : Text := "monkey::dump".toList

/-- The prompt. -/
def prompt : Text := "monkey::repl".toList

/-- The line editor behind the prompt. -/
def lineEditor : Text := "rustyline".toList

end Log.Target

namespace Log

/-- The fields of an event that is passed on for the line editor: where it comes from. -/
def forwardedFields : List Text :=
  ["log.target".toList, "log.module_path".toList, "log.file".toList, "log.line".toList]

/-- A source was scanned. -/
def scanned (source : Text) (summary : Dump.Summary) : Event :=
  { level := .debug
    target := Target.dump
    message := "scanned source".toList
    fields :=
      [("tokens".toList, number summary.tokens),
        ("illegal".toList, number summary.illegal.length),
        ("bytes".toList, number source.byteLength)] }

/-- An illegal character was found. -/
def illegalCharacter (target : Text) (token : Token) : Event :=
  { level := .warn
    target
    message := "illegal character".toList
    fields :=
      [("offset".toList, number token.span.start), ("text".toList, token.text.quoted)] }

end Log

namespace Console

/-- Nothing is written yet. -/
def ofSink (sink : Sink) : Console :=
  ⟨.ofSink sink, []⟩

/-- Writes a line on the error channel. -/
def complain (line : Text) : Console → Console
  | ⟨out, err⟩ => ⟨out, err ++ [line]⟩

/-- Writes pieces of output.  The program breaks off if one is refused. -/
def put (pieces : List Text) : Console → Flow × Console
  | ⟨out, err⟩ =>
    match Writer.writeAll pieces out with
    | (none, out) => (.proceed, ⟨out, err⟩)
    | (some _, out) => (.crash, ⟨out, err⟩)

/-- Writes lines of output. -/
def say (lines : List Text) (con : Console) : Flow × Console :=
  con.put (lines.flatMap fun line => [line, ['\n']])

/-- The word that stands before an error. -/
def errorTag : Text :=
  Ansi.bold (Ansi.colored .red "Error".toList)

/-- Writes an error on the error channel. -/
def report (error : ProgramError) (con : Console) : Console :=
  con.complain (errorTag ++ ": ".toList ++ error.message)

/-- Logs an event, if it is to be shown. -/
def log (ctx : Context) (event : Log.Event) (con : Console) : Console :=
  if ctx.filter.shows event then con.complain event.line else con

/-- Logs events in order. -/
def logAll (ctx : Context) (events : List Log.Event) (con : Console) : Console :=
  events.foldl (fun con event => con.log ctx event) con

/-- Dumps a source, and logs what was seen if all of it could be written: the summary, and each
    illegal character for the given target. -/
def dump (ctx : Context) (target : Text) (source : Text) :
    Console → Except SystemError Dump.Summary × Console
  | ⟨out, err⟩ =>
    match Dump.write ctx.color source out with
    | (.ok summary, out) =>
      (.ok summary,
        logAll ctx
          (Log.scanned source summary :: summary.illegal.map (Log.illegalCharacter target))
          ⟨out, err⟩)
    | (.error cause, out) => (.error cause, ⟨out, err⟩)

end Console

end MonkeyTokens
