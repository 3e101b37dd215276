import MonkeyTokens.Session.Entry
import MonkeyTokens.Text.Backspace
import MonkeyTokens.Text.Line

/-!
# A session on piped input

Input that is no terminal is read line by line.  Lines are put together to an entry until it is
finished, the entry is evaluated, and the next one starts.

* `Piped.State` — the unfinished entry and the console;
* `Piped.feed` — one line of input; `Piped.fileNeeded?` is the file that it asks for;
* `Piped.feedAll` — lines, as long as the session goes on;
* `Piped.run` — the session, from its banner to its end.
-/

namespace MonkeyTokens.Piped

/-- A session between two lines. -/
structure State where
  /-- The lines of the entry that is not finished. -/
  unfinished : Text
  console : Console
  deriving Repr

/-- The input is read as it comes. -/
def readingLines (asking : Bool) : Log.Event :=
  { level := .debug
    target := Log.Target.lineEditor
    message := (if asking then "unsupported terminal" else "stdin is not a tty").toList
    fields := []
    unshown := Log.forwardedFields }

/-- Asks for an entry, if entries are asked for.  Output that cannot be written ends the
    session. -/
def ask (ctx : Context) (asking : Bool) (con : Console) : Flow × Console :=
  match con.log ctx (readingLines asking) with
  | ⟨out, err⟩ =>
    if asking then
      match (Writer.write Page.prompt out).andThen LineWriter.flush with
      | (none, out) => (.proceed, ⟨out, err⟩)
      | (some cause, out) => (.fail (.prompt (.system cause)), ⟨out, err⟩)
    else (.proceed, ⟨out, err⟩)

/-- Goes on with a session unless it is over. -/
def goOn {σ : Type} (step : Flow × σ) (next : σ → Flow × σ) : Flow × σ :=
  match step with
  | (.proceed, s) => next s
  | (flow, s) => (flow, s)

/-- Evaluates a finished entry, and asks for the next one. -/
def finish (ctx : Context) (asking : Bool) (entry : Text) (con : Console) : Flow × Console :=
  goOn (Entry.evaluate ctx entry con) (ask ctx asking)

/-- The entry with a further line, apart from the ending of that line.  Backspaces in it may reach
    back into the lines before. -/
def assemble (unfinished line : Text) : Except SliceFault Line :=
  let whole := Line.ofText (unfinished ++ line)
  whole.body.applyBackspaces.map fun body => { whole with body }

/-- Reads a line.  Backspaces that cannot be carried out break the program off, and so do brackets
    that cannot be counted. -/
def feed (ctx : Context) (asking : Bool) (line : List UInt8) (s : State) : Flow × State :=
  match Text.decode? line with
  | none => (.fail (.prompt (.system .notUtf8)), s)
  | some text =>
    match assemble s.unfinished text with
    | .error _ => (.crash, s)
    | .ok entry =>
      match Balance.acceptsWord? entry.body with
      | none => (.crash, s)
      | some true =>
        let (flow, console) := finish ctx asking entry.body s.console
        (flow, ⟨[], console⟩)
      | some false => (.proceed, ⟨entry.body ++ entry.ending, s.console⟩)

/-- The file that has to be read when a line is. -/
def fileNeeded? (line : List UInt8) (s : State) : Option Text := do
  let text ← Text.decode? line
  let entry ← (assemble s.unfinished text).toOption
  let call ← Command.parse? entry.body
  if call.command = .load then call.argument else none

/-- Reads lines, as long as the session goes on. -/
def feedAll (ctx : Context) (asking : Bool) : List (List UInt8) → State → Flow × State
  | [], s => (.proceed, s)
  | line :: lines, s => goOn (feed ctx asking line s) (feedAll ctx asking lines)

/-- The end of the input: what is unfinished is dropped. -/
def close (s : State) : Flow × State :=
  let (flow, console) := s.console.say [Page.ended]
  (if flow = .proceed then .quit else flow, ⟨[], console⟩)

/-- The start of a session: banner and first question. -/
def start (ctx : Context) (asking : Bool) (user : Text) (con : Console) : Flow × State :=
  let (flow, console) := goOn (con.say (Page.banner user)) (ask ctx asking)
  (flow, ⟨[], console⟩)

/-- A session on the given input. -/
def run (ctx : Context) (asking : Bool) (user : Text) (input : List UInt8) (con : Console) :
    Flow × Console :=
  let started := start ctx asking user con
  let (flow, s) := goOn (goOn started (feedAll ctx asking (rawLines input))) close
  (flow, s.console)

end MonkeyTokens.Piped
