import MonkeyTokens.Text.Quoted

/-!
# The log

The program reports what it does as events of a target and a level.

* `Log.Event`, `Event.line` — an event and the line that shows it;
* `Event.fieldNames` — what a filter can ask an event for.
-/

namespace MonkeyTokens.Log

/-- How grave an event is. -/
inductive Level where
  | error
  | warn
  | info
  | debug
  | trace
  deriving DecidableEq, Repr

namespace Level

/-- The graver, the lower. -/
def rank : Level → Nat
  | error => 1
  | warn => 2
  | info => 3
  | debug => 4
  | trace => 5

/-- The name of a level, five characters wide. -/
def label : Level → Text
  | error => "ERROR".toList
  | warn => " WARN".toList
  | info => " INFO".toList
  | debug => "DEBUG".toList
  | trace => "TRACE".toList

end Level

/-- Something to report. -/
structure Event where
  level : Level
  target : Text
  message : Text
  /-- Names and shown values. -/
  fields : List (Text × Text)
  /-- Names of further fields, which are not shown. -/
  unshown : List Text := []
  deriving DecidableEq, Repr

/-- The names of all fields of an event; the message is one of them. -/
def Event.fieldNames (e : Event) : List Text :=
  "message".toList :: e.fields.map (·.1) ++ e.unshown

/-- A character of a message.  Those that a terminal could take for the start of a command are
    shown as escapes. -/
def shownCharacter (c : Char) : Text :=
  if c = '\x1b' then "\\x1b".toList
  else if c = '\x07' then "\\x07".toList
  else if c = '\x08' then "\\x08".toList
  else if c = '\x0c' then "\\x0c".toList
  else if c = '\x7f' then "\\x7f".toList
  else if 0x80 ≤ c.toNat ∧ c.toNat ≤ 0x9F then Text.escapeCode c
  else [c]

/-- The line that shows an event.  On the error channel the time stands before it, and at a terminal
    its parts are dimmed or colored; both are left out here. -/
def Event.line (e : Event) : Text :=
  e.level.label ++ " ".toList ++ e.target ++ ": ".toList ++ e.message.flatMap shownCharacter ++
    e.fields.flatMap fun field => " ".toList ++ field.1 ++ "=".toList ++ field.2

/-- A number as the value of a field. -/
def number (n : Nat) : Text :=
  Nat.toDigits 10 n

end MonkeyTokens.Log
