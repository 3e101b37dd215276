import MonkeyTokens.Prompt.Command
import MonkeyTokens.Token.Scan

/-!
# Finished and unfinished entries

An entry of the prompt goes on over several lines as long as a parenthesis or brace is open.

* `Kind.depthChange` — what a token does to the number of open brackets;
* `Balance.needsMore` — whether a source leaves a bracket open;
* `Balance.accepts` — whether an entry is finished, as commands always are;
* `Balance.needsMoreWord?`, `Balance.acceptsWord?` — the same as it is decided at the prompt, where
  brackets are counted in 32 bits.
-/

namespace MonkeyTokens

/-- What a token of a kind adds to the number of open brackets. -/
def Kind.depthChange : Kind → Int
  | .bracket .leftParen | .bracket .leftBrace => 1
  | .bracket .rightParen | .bracket .rightBrace => -1
  | _ => 0

namespace Balance

/-- Whether brackets are left open by tokens that are read with `depth` of them open.  A closing
    bracket without its opening one settles that nothing is missing. -/
def leavesOpen (depth : Int) : List Token → Bool
  | [] => 0 < depth
  | t :: ts =>
    let depth := depth + t.kind.depthChange
    if depth < 0 then false else leavesOpen depth ts

/-- A source leaves a bracket open. -/
def needsMore (source : Text) : Bool :=
  leavesOpen 0 (scan source)

/-- An entry is finished: it is a command, or leaves no bracket open. -/
def accepts (entry : Text) : Bool :=
  (Command.parse? entry).isSome || !needsMore entry

/-! ## Counting in 32 bits -/

/-- The sum of two numbers of 32 bits, if it is one. -/
def addWord? (a b : Int32) : Option Int32 :=
  if (a + b).toInt = a.toInt + b.toInt then some (a + b) else none

/-- Whether brackets are left open by tokens that are read with `depth` of them open, with nothing
    for an answer when the depth does not fit. -/
def leavesOpenWord? (depth : Int32) : List Token → Option Bool
  | [] => some (0 < depth)
  | t :: ts => do
    let depth ← addWord? depth (.ofInt t.kind.depthChange)
    if depth < 0 then some false else leavesOpenWord? depth ts

/-- A source leaves a bracket open, decided in 32 bits. -/
def needsMoreWord? (source : Text) : Option Bool :=
  leavesOpenWord? 0 (scan source)

/-- An entry is finished, decided in 32 bits.  Nothing is counted in a call. -/
def acceptsWord? (entry : Text) : Option Bool :=
  if (Command.parse? entry).isSome then some true else (needsMoreWord? entry).map (!·)

end Balance

end MonkeyTokens
