import MonkeyTokens.Program.Log
import MonkeyTokens.Text.Blank
import MonkeyTokens.Pattern.Read

/-!
# Log filters

A filter decides which events of the log are shown.  It is a list of directives, each for the
events of some target, or for those with some field, or for both; of the directives that are for an
event the most specific one decides.

* `Log.Directive`, `Directive.isFor`, `Directive.outranks` — a directive, what it is for, and which
  of two is more specific;
* `Log.Filter`, `Filter.shows` — the filter as a whole;
* `Filter.parse` — a filter from its written form, with directives separated by commas.

A written directive is a level, a target, or both with an equals sign between them.  In brackets
after the target, or in its place, it may name a span, that is a stretch of the program that marks
its events, or in braces a field, with or without a value.  There are no spans in this program, and
values of fields are those of spans, so a directive that asks for either shows nothing.
-/

namespace MonkeyTokens.Log

/-- Shows events up to a level. -/
structure Directive where
  /-- The start of the targets it is for; empty for all. -/
  target : Text
  /-- The field that the events it is for have; none for all events. -/
  field : Option Text
  /-- The rank of the least grave level that is shown; 0 shows nothing. -/
  upTo : Nat
  deriving DecidableEq, Repr

namespace Directive

/-- A directive decides on an event, unless a more specific one does. -/
def isFor (d : Directive) (e : Event) : Bool :=
  d.target.isPrefixOf e.target && d.field.all fun name => e.fieldNames.any (· = name)

/-- One name comes before another in the order of code points. -/
def precedes : Text → Text → Bool
  | _, [] => false
  | [], _ :: _ => true
  | a :: as, b :: bs => a.toNat < b.toNat || (a = b && precedes as bs)

/-- The field of one directive is more specific than that of another: any is more specific than
    none, and of two the one whose name comes later. -/
def fieldOutranks : Option Text → Option Text → Bool
  | some name, some other => precedes other name
  | some _, none => true
  | none, _ => false

/-- One directive is more specific than another: it has the longer target, or with targets of one
    length the more specific field. -/
def outranks (d other : Directive) : Bool :=
  other.target.length < d.target.length ||
    (other.target.length = d.target.length && fieldOutranks d.field other.field)

end Directive

/-- Directives, of which those given later count more among equals. -/
abbrev Filter := List Directive

namespace Filter

/-- The most specific directive for an event; the last of these. -/
def directiveFor? (e : Event) : Filter → Option Directive
  | [] => none
  | d :: ds =>
    match directiveFor? e ds with
    | some best => if d.isFor e && d.outranks best then some d else some best
    | none => if d.isFor e then some d else none

/-- An event passes the filter. -/
def shows (filter : Filter) (e : Event) : Bool :=
  match directiveFor? e filter with
  | some d => e.level.rank ≤ d.upTo
  | none => false

/-- The filter that shows the events of the program up to a level. -/
def ownUpTo (level : Level) : Filter :=
  [⟨"monkey".toList, none, level.rank⟩]

/-! ## Levels -/

/-- A number without a minus sign. -/
def numberOf? (t : Text) : Option Nat :=
  let digits := if t.head? = some '+' then t.tail else t
  if digits ≠ [] ∧ digits.all Char.isDigit then
    some (digits.foldl (fun n c => 10 * n + (c.toNat - '0'.toNat)) 0)
  else none

/-- The rank that a written level stands for: a number, or a name in any case. -/
def rankOf? (t : Text) : Option Nat :=
  match numberOf? t with
  | some n => if n ≤ Level.trace.rank then some n else none
  | none =>
    match String.ofList (t.map Char.toLower) with
    | "off" => some 0
    | "error" => some Level.error.rank
    | "warn" => some Level.warn.rank
    | "info" => some Level.info.rank
    | "debug" => some Level.debug.rank
    | "trace" => some Level.trace.rank
    | _ => none

/-! ## Directives -/

/-- Why a filter cannot be read. -/
inductive Fault where
  /-- It has a malformed directive. -/
  | malformed
  /-- A directive was to be cut inside a character. -/
  | cut (fault : SliceFault)
  deriving DecidableEq, Repr

/-- What has been read of a directive. -/
structure Draft where
  target : Text
  field : Option Text
  /-- It asks for a span, or for the value of a field. -/
  spanOnly : Bool
  deriving DecidableEq, Repr

/-- Where the reading of a directive stands.  What is not read yet is known by the place where it
    starts. -/
inductive Reading where
  | start
  /-- In a level or a target. -/
  | word (since : Nat)
  /-- In brackets, in the name of a span. -/
  | span (since : Nat)
  /-- In braces, in a field. -/
  | field (since : Nat)
  /-- After the closing brace. -/
  | fieldRead
  /-- After the closing bracket. -/
  | spanRead
  /-- In the level after an equals sign. -/
  | level (since : Nat)
  deriving DecidableEq, Repr

/-- A piece of a written directive. -/
def cut (written : Text) (start stop : Nat) : Except Fault Text :=
  (written.slice start stop).mapError .cut

/-- A written directive from some place on. -/
def cutFrom (written : Text) (start : Nat) : Except Fault Text :=
  cut written start written.byteLength

/-- The start of a directive: a bracket, or a character with which levels and targets start. -/
def isWordStart (c : Char) : Bool :=
  Text.isAlphanumeric c || c = '-' || c = ':' || c = '_'

/-- A number without a sign, with or without fraction and exponent. -/
def isDecimal (t : Text) : Bool :=
  let whole := t.takeWhile Char.isDigit
  let (fraction, rest) :=
    match t.dropWhile Char.isDigit with
    | '.' :: rest => (rest.takeWhile Char.isDigit, rest.dropWhile Char.isDigit)
    | rest => ([], rest)
  (whole ≠ [] || fraction ≠ []) &&
    match rest with
    | [] => true
    | 'e' :: '+' :: digits | 'E' :: '+' :: digits
    | 'e' :: '-' :: digits | 'E' :: '-' :: digits
    | 'e' :: digits | 'E' :: digits => digits ≠ [] && digits.all Char.isDigit
    | _ => false

/-- The value of a field is asked for by a pattern, or by a number; numbers with a plus sign are no
    patterns. -/
def isValue : Text → Bool
  | '+' :: t =>
    isDecimal t || String.ofList (t.map Char.toLower) ∈ ["inf", "infinity", "nan"]
  | t => Pattern.wellFormed t

/-- Takes in a field: its name, or a name and a value with an equals sign between them. -/
def withField (d : Draft) (written : Text) : Except Fault Draft :=
  if written = [] then .error .malformed
  else
    match written.dropWhile (· ≠ '=') with
    | [] => .ok { d with field := some written }
    | _ :: value =>
      if isValue (value.takeWhile (· ≠ '=')) then .ok { d with spanOnly := true }
      else .error .malformed

/-- Reads a character of a directive at its place.  A place is counted in the directive without
    the blanks at its ends, and pieces are cut from the directive as it is written, so that blanks
    before it shift them all. -/
def step (written : Text) (place : Nat) (c : Char) (d : Draft) :
    Reading → Except Fault (Draft × Reading)
  | .start =>
    if c = '[' then .ok (d, .span (place + 1))
    else if isWordStart c then .ok (d, .word place)
    else .error .malformed
  | .word since =>
    if c = '=' then do
      return ({ d with target := ← cut written since place }, .level (place + 1))
    else if c = '[' then do
      return ({ d with target := ← cut written since place }, .span (place + 1))
    else .ok (d, .word since)
  | .span since =>
    if c = ']' then do
      let _ ← cut written since place
      return ({ d with spanOnly := true }, .spanRead)
    else if c = '{' then do
      let name ← cut written since place
      return ({ d with spanOnly := !name.isEmpty }, .field (place + 1))
    else .ok (d, .span since)
  | .field since =>
    if c = '}' then do
      return (← withField d (← cut written since place), .fieldRead)
    else .ok (d, .field since)
  | .fieldRead => if c = ']' then .ok (d, .spanRead) else .error .malformed
  | .spanRead => if c = '=' then .ok (d, .level (place + 1)) else .error .malformed
  | .level since => .ok (d, .level since)

/-- A directive from its draft and its level.  One that asks for what only spans have says nothing
    about events. -/
def Draft.finish (d : Draft) (rank : Nat) : Option Directive :=
  if d.spanOnly then none else some ⟨d.target, d.field, rank⟩

/-- The end of a directive.  A word alone is a level if it can be one, and else a target, of which
    everything is shown; so it is without a level after the equals sign. -/
def finish (written : Text) (d : Draft) : Reading → Except Fault (Option Directive)
  | .word since => do
    let word ← cutFrom written since
    match rankOf? word with
    | some rank => return d.finish rank
    | none => return Draft.finish { d with target := word } Level.trace.rank
  | .level since => do
    let level ← cutFrom written since
    if level = [] then return d.finish Level.trace.rank
    else
      match rankOf? level with
      | some rank => return d.finish rank
      | none => throw .malformed
  | .spanRead => .ok (d.finish Level.trace.rank)
  | .start | .span _ | .field _ | .fieldRead => .error .malformed

/-- Reads what is left of a directive from some place on. -/
def readFrom (written : Text) : Text → Nat → Draft → Reading → Except Fault (Option Directive)
  | [], _, d, reading => finish written d reading
  | c :: cs, place, d, reading => do
    let (d, reading) ← step written place c d reading
    readFrom written cs (place + c.utf8Size) d reading

/-- Reads a directive. -/
def parseDirective (written : Text) : Except Fault (Option Directive) :=
  readFrom written written.trim 0 ⟨[], none, false⟩ .start

/-! ## Whole filters -/

/-- The pieces of a text between commas. -/
def pieces : Text → List Text
  | [] => [[]]
  | c :: cs =>
    if c = ',' then [] :: pieces cs
    else
      match pieces cs with
      | [] => [[c]]
      | piece :: more => (c :: piece) :: more

/-- Reads a filter.  Without any directive it shows errors only. -/
def parse (t : Text) : Except Fault Filter :=
  match (pieces t).filter (· ≠ []) with
  | [] => .ok [⟨[], none, Level.error.rank⟩]
  | directives => (directives.mapM parseDirective).map (List.filterMap id)

end Filter

end MonkeyTokens.Log
