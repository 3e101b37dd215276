import MonkeyTokens.Text.Ansi
import MonkeyTokens.Token.Scan
import MonkeyTokens.System.Output

/-!
# Token dumps

A dump shows the tokens of a source, one line each, and counts what it saw.

* `Kind.style` — the style of a kind;
* `Token.render` — the line of a token, plain or colored;
* `Dump.Summary` — number of tokens and the illegal ones, hence whether the source is clean;
* `Dump.write` — writes the dump of a source to any destination.
-/

namespace MonkeyTokens

open Ansi in
/-- The style in which tokens of a kind are shown. -/
def Kind.style : Kind → Style
  | .illegal => ⟨some .red, some .bold⟩
  | .eof => ⟨none, some .dim⟩
  | .integer => .ofColor .yellow
  | .bracket _ => .ofColor .yellow
  | .keyword .true_ | .keyword .false_ => .ofColor .blue
  | .keyword _ => ⟨some .magenta, some .bold⟩
  | .operator _ => .ofColor .cyan
  | .identifier | .separator _ => .none

/-- A line that shows a name and a text. -/
def Token.frame (name text : Text) : Text :=
  "\x7bType:".toList ++ name ++ " Literal:".toList ++ text ++ "\x7d".toList

/-- The line of a token.  With color, its name and its text are painted in the style of its
    kind. -/
def Token.render (color : Bool) (t : Token) : Text :=
  if color then frame (t.kind.style.paint t.kind.name) (t.kind.style.paint t.text)
  else frame t.kind.name t.text

namespace Dump

/-- What a dump saw. -/
structure Summary where
  /-- How many tokens there are, the end of the input not counted. -/
  tokens : Nat
  /-- The illegal tokens, in source order. -/
  illegal : List Token
  deriving DecidableEq, Repr

namespace Summary

/-- The summary of some tokens. -/
def ofTokens (tokens : List Token) : Summary :=
  ⟨tokens.length, tokens.filter Token.isIllegal⟩

/-- There was no illegal character. -/
def isClean (s : Summary) : Bool :=
  s.illegal.isEmpty

/-- The exit status of a program that was to dump a source: failure if it is not clean. -/
def exitStatus (s : Summary) : Nat :=
  if s.isClean then 0 else 1

end Summary

/-- What is written for some tokens, in the pieces in which it is written. -/
def pieces (color : Bool) (tokens : List Token) : List Text :=
  tokens.flatMap fun t => [t.render color, ['\n']]

/-- The whole text of a dump. -/
def text (color : Bool) (source : Text) : Text :=
  (pieces color (scan source)).flatten

/-- Writes the dump of a source.  There is a summary only if everything was written. -/
def write {ω : Type} [Writer ω] (color : Bool) (source : Text) (out : ω) :
    Except SystemError Summary × ω :=
  let tokens := scan source
  match Writer.writeAll (pieces color tokens) out with
  | (none, out) => (.ok (.ofTokens tokens), out)
  | (some cause, out) => (.error cause, out)

end Dump

end MonkeyTokens
