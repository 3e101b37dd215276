import MonkeyTokens.Token.Kind

/-!
# Tokens

A token is a kind, the text it was read from and the place of that text in the source.

* `Span` — a range of byte offsets, with its length where that is defined;
* `Token` — kind, text and span; `Token.endOfInput` is the one with empty text.
-/

namespace MonkeyTokens

/-- A range of byte offsets in a source: `start` belongs to it, `stop` does not. -/
structure Span where
  start : Nat
  stop : Nat
  deriving DecidableEq, Repr

namespace Span

/-- The number of bytes in the range.  A range that ends before it starts has no length. -/
def length? (s : Span) : Option Nat :=
  if s.start ≤ s.stop then some (s.stop - s.start) else none

/-- The range ends where it starts. -/
def isEmpty (s : Span) : Bool :=
  s.start == s.stop

/-- The same range, `n` bytes further on. -/
def shift (n : Nat) (s : Span) : Span :=
  ⟨n + s.start, n + s.stop⟩

end Span

/-- A piece of source text and what it is. -/
structure Token where
  kind : Kind
  text : Text
  span : Span
  deriving DecidableEq, Repr

namespace Token

/-- The token that stands at the end of a source of `n` bytes. -/
def endOfInput (n : Nat) : Token :=
  ⟨.eof, [], ⟨n, n⟩⟩

/-- The token marks the end of the input. -/
def isEof (t : Token) : Bool :=
  t.kind = .eof

/-- The token is an illegal character. -/
def isIllegal (t : Token) : Bool :=
  t.kind = .illegal

/-- The same token, `n` bytes further on. -/
def shift (n : Nat) (t : Token) : Token :=
  { t with span := t.span.shift n }

end Token

end MonkeyTokens
