import MonkeyTokens.Token.Basic

/-!
# Scanning a source

A source is a sequence of lexemes with gaps before, between and after them.  At each place the
longest lexeme is taken, and one character of lookahead tells where it ends.

* `isGap` — the four characters that only separate;
* `startsName`, `continuesName` — the characters of identifiers and reserved words;
* `munch` — the lexeme that a given character starts, as its kind and its further characters;
* `scan` — all tokens of a source, in order, without the end of the input.
-/

namespace MonkeyTokens

/-- Space, tab, line feed and carriage return separate tokens and mean nothing else. -/
def isGap (c : Char) : Bool :=
  c = ' ' || c = '\t' || c = '\n' || c = '\r'

/-- ASCII letters and the underscore start a word. -/
def startsName (c : Char) : Bool :=
  c = '_' || c.isAlpha

/-- A word goes on with what can start it and with ASCII digits. -/
def continuesName (c : Char) : Bool :=
  startsName c || c.isDigit

/-- The lexeme that `c` starts when `rest` follows: its kind, and how much of `rest` belongs to
    it. -/
def munch (c : Char) (rest : Text) : Kind × Text :=
  if c = '=' then
    if rest.head? = some '=' then (.operator .equal, ['=']) else (.operator .assign, [])
  else if c = '!' then
    if rest.head? = some '=' then (.operator .notEqual, ['=']) else (.operator .bang, [])
  else if c.isDigit then (.integer, rest.takeWhile Char.isDigit)
  else if startsName c then
    (.ofWord (c :: rest.takeWhile continuesName), rest.takeWhile continuesName)
  else ((Kind.ofCharacter? c).getD .illegal, [])

/-- The tokens of a piece of a source that starts at byte offset `start`. -/
def scanFrom (start : Nat) : Text → List Token
  | [] => []
  | c :: rest =>
    if isGap c then scanFrom (start + c.utf8Size) rest
    else
      let (kind, tail) := munch c rest
      let stop := start + Text.byteLength (c :: tail)
      ⟨kind, c :: tail, ⟨start, stop⟩⟩ :: scanFrom stop (rest.drop tail.length)
  termination_by t => t.length

/-- The tokens of a source. -/
def scan (source : Text) : List Token :=
  scanFrom 0 source

end MonkeyTokens
