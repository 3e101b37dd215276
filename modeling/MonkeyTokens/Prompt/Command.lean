import MonkeyTokens.Text.Blank

/-!
# Dot-commands

A line of the prompt that starts with a dot and a command's name is a command, not source.

* `Command` — the commands, with the names each goes by;
* `Command.Call` — a command and what is given to it;
* `Command.parse?` — reads a call;
* `Command.usage`, `Command.description` — what the help page says.
-/

namespace MonkeyTokens

/-- The commands of the prompt. -/
inductive Command where
  | help
  | exit
  | clear
  | version
  | load
  deriving DecidableEq, Repr

namespace Command

/-- The names of a command, in lower case. -/
def names : Command → List Text
  | help => ["help".toList, "h".toList, "?".toList]
  | exit => ["exit".toList, "quit".toList, "q".toList]
  | clear => ["clear".toList, "cls".toList]
  | version => ["version".toList, "v".toList]
  | load => ["load".toList, "l".toList]

/-- Every command, in the order of the help page. -/
def all : List Command :=
  [help, exit, clear, version, load]

/-- The command that goes by a name.  Upper-case letters count as lower-case ones; names are
    ASCII, and no other character has a lower-case form that is an ASCII letter of a name. -/
def ofName? (name : Text) : Option Command :=
  all.find? fun command => name.map Char.toLower ∈ command.names

/-- A command as it was given. -/
structure Call where
  command : Command
  /-- What follows the name, if anything but blanks does. -/
  argument : Option Text
  deriving DecidableEq, Repr

/-- Reads a call: a dot, a name that goes on to the first blank character or to the end, and an
    argument.  Blanks at both ends and around the argument do not count. -/
def parse? (input : Text) : Option Call :=
  match Text.trim input with
  | '.' :: call =>
    let argument := Text.trim (call.dropWhile fun c => !Text.isBlank c)
    (ofName? (call.takeWhile fun c => !Text.isBlank c)).map fun command =>
      ⟨command, if argument = [] then none else some argument⟩
  | _ => none

/-- How the help page shows a command. -/
def usage : Command → Text
  | help => ".help".toList
  | exit => ".exit".toList
  | clear => ".clear".toList
  | version => ".version".toList
  | load => ".load <file>".toList

/-- What the help page says about a command. -/
def description : Command → Text
  | help => "Show this help message".toList
  | exit => "Exit the REPL".toList
  | clear => "Clear the screen".toList
  | version => "Show version information".toList
  | load => "Print the tokens of a Monkey file".toList

/-- The word that is offered to complete a command. -/
def word : Command → Text
  | help => ".help".toList
  | exit => ".exit".toList
  | clear => ".clear".toList
  | version => ".version".toList
  | load => ".load".toList

end Command

end MonkeyTokens
