import MonkeyTokens.Text.Utf8

/-!
# Colored text

Colors are escape sequences around a text: the escape character, a bracket, codes separated by
semicolons, and an `m`.

* `Ansi.Style`, `Style.paint` — a color and a weight in one sequence, reset by the sequence that
  clears everything;
* `Ansi.colored`, `bold`, `dimmed` — a single attribute, where a color is reset by the sequence
  for the default color;
* `Ansi.strip` — a text without its escape sequences.
-/

namespace MonkeyTokens.Ansi

/-- The colors in use. -/
inductive Color where
  | red
  | yellow
  | blue
  | magenta
  | cyan
  | white
  | brightGreen
  | brightCyan
  deriving DecidableEq, Repr

/-- The code that turns a color on. -/
def Color.code : Color → Text
  | red => "31".toList
  | yellow => "33".toList
  | blue => "34".toList
  | magenta => "35".toList
  | cyan => "36".toList
  | white => "37".toList
  | brightGreen => "92".toList
  | brightCyan => "96".toList

/-- How strongly a text shows. -/
inductive Weight where
  | bold
  | dim
  deriving DecidableEq, Repr

/-- The code that turns a weight on. -/
def Weight.code : Weight → Text
  | bold => "1".toList
  | dim => "2".toList

/-- The sequence that sets the given codes. -/
def sequence (codes : Text) : Text :=
  '\x1b' :: '[' :: (codes ++ ['m'])

/-- A text between a sequence and the sequence that undoes it. -/
def wrap (on off : Text) (t : Text) : Text :=
  sequence on ++ t ++ sequence off

/-- A text in a color, followed by the default color. -/
def colored (color : Color) (t : Text) : Text :=
  wrap color.code "39".toList t

/-- A text in bold type. -/
def bold (t : Text) : Text :=
  wrap Weight.bold.code "0".toList t

/-- A text in dim type. -/
def dimmed (t : Text) : Text :=
  wrap Weight.dim.code "0".toList t

/-- A color, a weight, both or neither. -/
structure Style where
  color : Option Color
  weight : Option Weight
  deriving DecidableEq, Repr

namespace Style

/-- Neither color nor weight. -/
def none : Style := ⟨.none, .none⟩

/-- A color alone. -/
def ofColor (color : Color) : Style := ⟨some color, .none⟩

/-- The codes of a style: color before weight. -/
def codes : Style → Text
  | ⟨.none, .none⟩ => []
  | ⟨some color, .none⟩ => color.code
  | ⟨.none, some weight⟩ => weight.code
  | ⟨some color, some weight⟩ => color.code ++ [';'] ++ weight.code

/-- A text in a style.  The style without codes leaves it alone; any other wraps even the empty
    text. -/
def paint (style : Style) (t : Text) : Text :=
  if style.codes = [] then t else wrap style.codes "0".toList t

end Style

mutual

/-- A text without its escape sequences: every stretch from an escape character up to the next
    `m` is left out. -/
def strip : Text → Text
  | [] => []
  | c :: cs => if c = '\x1b' then stripSequence cs else c :: strip cs

/-- Leaves out the rest of an escape sequence, then goes on as `strip`. -/
def stripSequence : Text → Text
  | [] => []
  | c :: cs => if c = 'm' then strip cs else stripSequence cs

end

/-- A text filled up with spaces to a number of characters. -/
def padRight (width : Nat) (t : Text) : Text :=
  t ++ List.replicate (width - t.length) ' '

end MonkeyTokens.Ansi
