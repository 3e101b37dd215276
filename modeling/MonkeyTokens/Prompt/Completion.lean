import MonkeyTokens.Prompt.Command
import MonkeyTokens.Text.Ansi
import MonkeyTokens.Token.Kind

/-!
# Completion and hints

What the prompt offers for the word at the cursor.

* `Completion.words` — the reserved words and the commands;
* `Completion.candidates` — the words that a given start can become;
* `Completion.wordStart` — where the word at the cursor starts;
* `Completion.complete`, `Completion.hint` — what is offered, and what is shown behind the cursor.

Places are byte offsets, and asking for a place inside a character is an error.  The word at the
cursor starts one byte after the last character that belongs to no word; where that character is
longer than one byte, this place is inside it, and nothing can be completed there.
-/

namespace MonkeyTokens.Completion

/-- The words on offer: the reserved words, then the commands. -/
def words : List Text :=
  Keyword.all.map Keyword.spelling ++ Command.all.map Command.word

/-- A character of a word: ASCII letter or digit, underscore or dot. -/
def isWordCharacter (c : Char) : Bool :=
  c.isAlphanum || c = '_' || c = '.'

/-- The words that start with `start` and are longer. -/
def candidates (start : Text) : List Text :=
  words.filter fun word => start.isPrefixOf word && start.byteLength < word.byteLength

/-- One byte after the start of the last character that belongs to no word, or `found` if there
    is none; the text starts at byte `offset`. -/
def afterLastBreak (offset found : Nat) : Text → Nat
  | [] => found
  | c :: cs =>
    afterLastBreak (offset + c.utf8Size) (if isWordCharacter c then found else offset + 1) cs

/-- The byte offset at which the word that ends at `pos` starts. -/
def wordStart (line : Text) (pos : Nat) : Except SliceFault Nat :=
  (line.slice 0 pos).map (afterLastBreak 0 0)

/-- One offer. -/
structure Offer where
  /-- The word. -/
  display : Text
  /-- What is to be typed to get it. -/
  replacement : Text
  deriving DecidableEq, Repr

/-- The offers for a start of a word. -/
def offers (start : Text) : List Offer :=
  (candidates start).map fun word => ⟨word, word.drop start.length⟩

/-- The offers for the word that ends at `pos`, to be put in there.  For no word at all nothing
    is offered. -/
def complete (line : Text) (pos : Nat) : Except SliceFault (Nat × List Offer) := do
  let start ← wordStart line pos
  let word ← line.slice start pos
  return (pos, if word = [] then [] else offers word)

/-- What is shown behind the cursor at the end of a line: the rest of the first candidate, if at
    least two bytes of it are typed. -/
def hint (line : Text) (pos : Nat) : Except SliceFault (Option Text) := do
  if pos < line.byteLength then
    return none
  let start ← wordStart line pos
  let word ← line.slice start line.byteLength
  if word.byteLength < 2 then
    return none
  return (offers word).head?.map fun offer => Ansi.dimmed offer.replacement

end MonkeyTokens.Completion
