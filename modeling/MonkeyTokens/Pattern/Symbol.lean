import MonkeyTokens.Pattern.Flags

/-!
# Symbols of patterns

What a pattern is made of, apart from groups, sets and repetitions.

* `Pattern.Symbol` — a character, a class of characters, or a place;
* `Pattern.readSymbol`, `Pattern.readEscape` — written symbols;
* `Symbol.isAllowed`, `Symbol.isAllowedInSet` — the symbols that can be used under given flags.

There are no tables of characters: nothing that needs the properties of characters, or their other
case, can be used.  And no symbol may match less than a character.
-/

namespace MonkeyTokens.Pattern

/-- What a pattern is made of. -/
inductive Symbol where
  /-- A character; `byte` if it is given by the number of a byte. -/
  | character (c : Char) (byte : Bool)
  /-- Digits, blanks or the characters of words, or all others. -/
  | classOfSome (negated : Bool)
  /-- Any character. -/
  | any
  /-- A place; `ofWord` if it is one where words start or end. -/
  | place (ofWord : Bool)
  deriving DecidableEq, Repr

namespace Symbol

/-- A character given by the number of a byte that is no character. -/
def isBareByte (c : Char) (byte : Bool) : Bool :=
  byte && 0x80 ≤ c.toNat && c.toNat ≤ 0xFF

/-- A symbol that can be used outside of sets. -/
def isAllowed (f : Flags) : Symbol → Bool
  | character c byte => if f.unicode then !f.ignoresCase else !isBareByte c byte
  | classOfSome negated => !f.unicode && !negated
  | any => f.unicode
  | place ofWord => !(ofWord && f.unicode)

/-- A symbol that can be used in a set. -/
def isAllowedInSet (f : Flags) : Symbol → Bool
  | character c _ => if f.unicode then !f.ignoresCase else c.toNat < 0x80
  | classOfSome negated => !f.unicode && !negated
  | any | place _ => false

end Symbol

/-! ## Escapes -/

/-- The value of a hexadecimal digit. -/
def hexDigit? (c : Char) : Option Nat :=
  if c.isDigit then some (c.toNat - '0'.toNat)
  else if c.toLower ∈ ['a', 'b', 'c', 'd', 'e', 'f'] then some (c.toLower.toNat - 'a'.toNat + 10)
  else none

/-- Reads a number of hexadecimal digits, and goes on with the number they are the end of. -/
def readHex (f : Flags) : Nat → Nat → Text → Option (Nat × Text)
  | 0, n, t => some (n, t)
  | _ + 1, _, [] => none
  | count + 1, n, c :: cs => do readHex f count (16 * n + (← hexDigit? c)) (f.skip cs)

/-- Reads a character given by the digits of its code point. -/
def readCode (f : Flags) (digits : Nat) (byte : Bool) (t : Text) : Option (Symbol × Text) := do
  let (n, rest) ← readHex f digits 0 (f.skip t)
  if n.isValidChar then return (.character (Char.ofNat n) byte, rest) else none

/-- The symbol that a backslash and a character make: a control character, a class, a place, or a
    character that has no meaning of its own then.  Letters and digits without a use are refused,
    and so is the letter for a property. -/
def escape? (c : Char) : Option Symbol :=
  match c with
  | 'a' => some (.character '\x07' false)
  | 'f' => some (.character '\x0c' false)
  | 'n' => some (.character '\n' false)
  | 'r' => some (.character '\r' false)
  | 't' => some (.character '\t' false)
  | 'v' => some (.character '\x0b' false)
  | 'd' | 's' | 'w' => some (.classOfSome false)
  | 'D' | 'S' | 'W' => some (.classOfSome true)
  | 'A' | 'z' => some (.place false)
  | 'b' | 'B' | '<' | '>' => some (.place true)
  | c => if c.toNat < 0x80 && !c.isAlphanum then some (.character c false) else none

/-- Reads what follows a backslash. -/
def readEscape (f : Flags) : Text → Option (Symbol × Text)
  | [] => none
  | 'x' :: rest => readCode f 2 true rest
  | 'u' :: rest => readCode f 4 false rest
  | 'U' :: rest => readCode f 8 false rest
  | c :: rest => (escape? c).map fun s => (s, rest)

/-- Reads a symbol in a set: an escape, or any character. -/
def readSetSymbol (f : Flags) : Text → Option (Symbol × Text)
  | [] => none
  | '\\' :: rest => readEscape f rest
  | c :: rest => some (.character c false, rest)

/-- Reads a symbol outside of sets. -/
def readSymbol (f : Flags) : Text → Option (Symbol × Text)
  | '.' :: rest => some (.any, rest)
  | '^' :: rest | '$' :: rest => some (.place false, rest)
  | t => readSetSymbol f t

end MonkeyTokens.Pattern
