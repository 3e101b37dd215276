import MonkeyTokens.Text.Graphic

/-!
# Quoted texts

How a text is shown as the value of a log field: between double quotes, with every character
that does not show for itself written as an escape.

* `Text.escapeChar` — the rule for one character;
* `Text.quoted` — a whole text.
-/

namespace MonkeyTokens.Text

/-- Lower-case hexadecimal digits without leading zeros. -/
def hexDigits (n : Nat) : Text :=
  Nat.toDigits 16 n

/-- A character written as its code point in braces. -/
def escapeCode (c : Char) : Text :=
  ['\\', 'u', '{'] ++ hexDigits c.toNat ++ ['}']

/-- A character that can stand by itself between the quotes. -/
def showsAlone (c : Char) : Bool :=
  isGraphic c && !fillerRanges.has c && (!extendsCluster c || soundMarkRanges.has c)

/-- Quote, backslash and four control characters have a short escape; what else does not show for
    itself is written as its code point. -/
def escapeChar (c : Char) : Text :=
  if c = '\x00' then ['\\', '0']
  else if c = '\t' then ['\\', 't']
  else if c = '\n' then ['\\', 'n']
  else if c = '\r' then ['\\', 'r']
  else if c = '"' then ['\\', '"']
  else if c = '\\' then ['\\', '\\']
  else if showsAlone c then [c]
  else escapeCode c

/-- A text between double quotes. -/
def quoted (t : Text) : Text :=
  ['"'] ++ t.flatMap escapeChar ++ ['"']

end MonkeyTokens.Text
