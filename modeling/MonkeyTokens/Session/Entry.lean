import MonkeyTokens.Program.Console
import MonkeyTokens.Prompt.Balance
import MonkeyTokens.Session.Page

/-!
# Evaluating an entry

What the prompt does with an accepted entry: nothing if it is blank, what a command says if it is
one, and else a dump of it as a source, without the blanks at its two ends.

* `Entry.execute` — a command;
* `Entry.evaluate` — any entry.
-/

namespace MonkeyTokens.Entry

/-- Dumps a source at the prompt.  That it cannot be written is reported, and the prompt goes
    on. -/
def dump (ctx : Context) (source : Text) (con : Console) : Console :=
  match con.dump ctx Log.Target.prompt source with
  | (.ok _, con) => con
  | (.error cause, con) => con.report (.unwritable cause)

/-- Dumps a file at the prompt.  That it cannot be read is reported, and the prompt goes on. -/
def load (ctx : Context) (path : Text) (con : Console) : Console :=
  match ctx.readFile path with
  | .ok source => dump ctx source con
  | .error cause => con.report (.unreadable path cause)

/-- What is said if no file is named. -/
def pathMissing : Text :=
  Console.errorTag ++ ": ".toList ++ Ansi.colored .cyan ".load".toList ++ " ".toList ++
    Ansi.dimmed "requires a file path".toList

/-- Executes a command. -/
def execute (ctx : Context) (call : Command.Call) (con : Console) : Flow × Console :=
  match call.command with
  | .help => con.say Page.help
  | .exit => (.quit, con)
  | .clear => con.put [Page.clear]
  | .version => con.say Page.version
  | .load =>
    match call.argument with
    | some path => (.proceed, load ctx path con)
    | none => (.proceed, con.complain pathMissing)

/-- Evaluates an entry. -/
def evaluate (ctx : Context) (entry : Text) (con : Console) : Flow × Console :=
  let entry := entry.trim
  if entry = [] then (.proceed, con)
  else
    match Command.parse? entry with
    | some call => execute ctx call con
    | none => (.proceed, dump ctx entry con)

end MonkeyTokens.Entry
