import MonkeyTokens.Text.Utf8

/-!
# Blank characters

The characters with the Unicode property `White_Space`, and trimming by them.

* `Text.isBlank` — the property, as its table of ranges;
* `Text.trim` — a text without the blank characters at its two ends.
-/

namespace MonkeyTokens.Text

/-- The characters with the Unicode property `White_Space`. -/
def isBlank (c : Char) : Bool :=
  (0x09 ≤ c.toNat && c.toNat ≤ 0x0D) || c.toNat == 0x20 || c.toNat == 0x85 || c.toNat == 0xA0 ||
  c.toNat == 0x1680 || (0x2000 ≤ c.toNat && c.toNat ≤ 0x200A) || c.toNat == 0x2028 ||
  c.toNat == 0x2029 || c.toNat == 0x202F || c.toNat == 0x205F || c.toNat == 0x3000

/-- A text without its leading blank characters. -/
def trimStart (t : Text) : Text :=
  t.dropWhile isBlank

/-- A text without its trailing blank characters. -/
def trimEnd (t : Text) : Text :=
  (t.reverse.dropWhile isBlank).reverse

/-- A text without the blank characters at its two ends. -/
def trim (t : Text) : Text :=
  trimEnd (trimStart t)

end MonkeyTokens.Text
