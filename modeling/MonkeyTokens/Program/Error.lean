import MonkeyTokens.System.Error

/-!
# Errors of the program

What the program cannot go on from, and what it says then.

* `PromptError` — how asking for an entry can fail;
* `ProgramError` — a source that cannot be read, output that cannot be written, a prompt that
  failed;
* `ProgramError.message`, `ProgramError.cause` — the wording of an error and of what caused it.
-/

namespace MonkeyTokens

/-- Why there is no entry. -/
inductive PromptError where
  | system (cause : SystemError)
  /-- The input is at its end. -/
  | endOfInput
  /-- The entry was cancelled. -/
  | interrupted
  /-- The window changed its size. -/
  | windowResized
  deriving DecidableEq, Repr

/-- The wording of a failure of the prompt. -/
def PromptError.message : PromptError → Text
  | .system cause => cause.message
  | .endOfInput => "EOF".toList
  | .interrupted => "Interrupted".toList
  | .windowResized => "WindowResized".toList

/-- Why the program failed. -/
inductive ProgramError where
  /-- A source could not be read. -/
  | unreadable (path : Text) (cause : SystemError)
  /-- A dump could not be written. -/
  | unwritable (cause : SystemError)
  /-- The prompt failed. -/
  | prompt (cause : PromptError)
  deriving DecidableEq, Repr

namespace ProgramError

/-- The wording of what caused an error. -/
def cause : ProgramError → Text
  | unreadable _ cause => cause.message
  | unwritable cause => cause.message
  | prompt cause => cause.message

/-- The wording of an error. -/
def message : ProgramError → Text
  | unreadable path cause => "cannot read '".toList ++ path ++ "': ".toList ++ cause.message
  | unwritable cause => "cannot write output: ".toList ++ cause.message
  | prompt cause => "REPL error: ".toList ++ cause.message

end ProgramError

end MonkeyTokens
