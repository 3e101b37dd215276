import MonkeyTokens.Dump
import MonkeyTokens.Prompt.Command

/-!
# Highlighting a line

The prompt shows a line in color while it is typed.

* `Highlight.source` — a source with every token painted and the gaps kept;
* `Highlight.line` — a line of the prompt, where a command is painted as a whole.
-/

namespace MonkeyTokens.Highlight

/-- Paints the tokens of a piece of source that starts at byte `offset`.  The gap before each
    token and what follows the last one stay as they are. -/
def paintFrom (offset : Nat) (rest : Text) : List Token → Text
  | [] => rest
  | t :: ts =>
    let gap := (rest.takeBytes? (t.span.start - offset)).getD []
    let after := (rest.dropBytes? (t.span.stop - offset)).getD []
    gap ++ t.kind.style.paint t.text ++ paintFrom t.span.stop after ts

/-- A source in color. -/
def source (t : Text) : Text :=
  paintFrom 0 t (scan t)

/-- A line of the prompt, in color if wanted. -/
def line (color : Bool) (t : Text) : Text :=
  if !color then t
  else if (Command.parse? t).isSome then Ansi.colored .magenta t
  else source t

end MonkeyTokens.Highlight
