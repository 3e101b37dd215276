import MonkeyTokens.Prompt.Command
import MonkeyTokens.Text.Ansi

/-!
# The pages of the prompt

The lines that the prompt shows by itself or on demand.  Their colors do not depend on whether
dumps are colored.

* `Page.banner` — the greeting;
* `Page.help`, `Page.version` — the answers to two commands;
* `Page.interrupted`, `Page.ended` — what stands for a cancelled entry and for the end of the
  input;
* `Page.clear` — the sequence that clears the screen.
-/

namespace MonkeyTokens.Page

open Ansi

/-- The name of the language. -/
def language : Text :=
  bold (colored .brightCyan "Monkey".toList)

/-- The greeting for a user. -/
def banner (user : Text) : List Text :=
  [ "Hello ".toList ++ bold (colored .brightGreen user) ++ "! This is the ".toList ++ language ++
      " programming language!".toList,
    "Feel free to type in commands".toList,
    "  ".toList ++ dimmed "Type".toList ++ " ".toList ++ colored .cyan ".help".toList ++
      " ".toList ++ dimmed "for available commands".toList,
    [] ]

/-- A line of the help page: a name in color, filled up to sixteen characters, and what it does. -/
def entry (color : Color) (name : Text) (meaning : Text) : Text :=
  "  ".toList ++ colored color (padRight 16 name) ++ " ".toList ++ dimmed meaning

/-- A heading of the help page. -/
def heading (t : Text) : Text :=
  bold (colored .white t)

/-- The keys of the prompt and what they do. -/
def keys : List (Text × Text) :=
  [ ("Ctrl+C".toList, "Cancel current input".toList),
    ("Ctrl+D".toList, "Exit REPL".toList),
    ("Ctrl+L".toList, "Clear screen".toList),
    ("Tab".toList, "Autocomplete".toList),
    ("↑/↓".toList, "Navigate history".toList) ]

/-- The help page: commands and keys. -/
def help : List Text :=
  [[], heading "REPL Commands:".toList, []] ++
  Command.all.map (fun command => entry .cyan command.usage command.description) ++
  [[], heading "Keyboard Shortcuts:".toList, []] ++
  keys.map (fun key => entry .yellow key.1 key.2) ++
  [[]]

/-- The version of the program. -/
def programVersion : Text :=
  "0.1.0".toList

/-- The version page. -/
def version : List Text :=
  [ [],
    language ++ ": ".toList ++ colored .yellow programVersion,
    dimmed "Rust".toList ++ ": 1.85".toList,
    [] ]

/-- What stands for a cancelled entry. -/
def interrupted : Text :=
  dimmed "^C".toList

/-- What stands for the end of the input. -/
def ended : Text :=
  dimmed "^D".toList

/-- Clears the screen and goes to its upper left corner. -/
def clear : Text :=
  "\x1b[2J\x1b[H".toList

/-- What asks for an entry. -/
def prompt : Text :=
  ">> ".toList

end MonkeyTokens.Page
