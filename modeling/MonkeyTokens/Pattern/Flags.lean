import MonkeyTokens.Text.Blank

/-!
# Flags of patterns

A pattern is a regular expression, and flags within it change how what follows is read.

* `Pattern.Flags` — the flags that decide which patterns are well formed;
* `Pattern.readFlags` — written flags;
* `Flags.skip`, `Flags.peek` — what comes next, where blanks and comments may be left out.
-/

namespace MonkeyTokens.Pattern

/-- The flags that decide which patterns are well formed. -/
structure Flags where
  /-- Letters stand for both of their cases. -/
  ignoresCase : Bool
  /-- What is matched are characters, and not bytes. -/
  unicode : Bool
  /-- Blanks and comments are left out. -/
  skipsBlanks : Bool
  deriving DecidableEq, Repr

namespace Flags

/-- The flags at the start of a pattern. -/
def initial : Flags :=
  ⟨false, true, false⟩

/-- Turns a flag on or off.  Flags without a field here change only what is matched. -/
def set (f : Flags) (flag : Char) (on : Bool) : Flags :=
  match flag with
  | 'i' => { f with ignoresCase := on }
  | 'u' => { f with unicode := on }
  | 'x' => { f with skipsBlanks := on }
  | _ => f

end Flags

/-- The letters of all flags. -/
def flagLetters : List Char :=
  ['i', 'm', 's', 'U', 'u', 'R', 'x']

/-- What written flags are for. -/
inductive FlagsUse where
  /-- They are for the rest of the group around them. -/
  | setting
  /-- They are for the group that they start. -/
  | group
  deriving DecidableEq, Repr

/-- Reads flags up to the parenthesis or colon at their end.  Those after a minus sign are turned
    off; the sign is followed by at least one, and none is given twice. -/
def readFlags (f : Flags) (seen : List Char) : Text → Option (Flags × FlagsUse × Text)
  | [] => none
  | c :: rest =>
    if c = ')' then
      if seen = [] || seen.head? = some '-' then none else some (f, .setting, rest)
    else if c = ':' then if seen.head? = some '-' then none else some (f, .group, rest)
    else if c ∈ seen then none
    else if c = '-' then readFlags f (c :: seen) rest
    else if c ∈ flagLetters then readFlags (f.set c ('-' ∉ seen)) (c :: seen) rest
    else none

/-! ## Blanks and comments -/

/-- What follows blanks and comments.  A comment goes from a number sign to the end of its
    line. -/
def skipBlanks (inComment : Bool) : Text → Text
  | [] => []
  | c :: cs =>
    if inComment then skipBlanks (c ≠ '\n') cs
    else if Text.isBlank c then skipBlanks false cs
    else if c = '#' then skipBlanks true cs
    else c :: cs

/-- The first character that is no blank.  A number sign before it is passed over once. -/
def firstVisible (inComment : Bool) : Text → Option Char
  | [] => none
  | c :: cs =>
    if Text.isBlank c then firstVisible inComment cs
    else if c = '#' && !inComment then firstVisible true cs
    else some c

namespace Flags

/-- What comes next. -/
def skip (f : Flags) (t : Text) : Text :=
  if f.skipsBlanks then skipBlanks false t else t

/-- The character that seems to come next.  Unlike `skip`, this does not tell the text of a comment
    from what follows it. -/
def peek (f : Flags) (t : Text) : Option Char :=
  if f.skipsBlanks then (firstVisible false t).or t.head? else t.head?

end Flags

end MonkeyTokens.Pattern
