import MonkeyTokens.Pattern.Set
import MonkeyTokens.Text.Alphanumeric

/-!
# Well-formed patterns

A pattern is read from its start, part by part.

* `Pattern.State` — where the reading stands: the part of each open group that is read, and the open
  sets;
* `State.step` — the rules for groups, alternatives, repetitions and symbols;
* `Pattern.wellFormed` — a pattern that can be read to its end, and whose parts are not nested too
  deep.
-/

namespace MonkeyTokens.Pattern

/-- A part of a sequence. -/
inductive Part where
  /-- A setting of flags, which cannot be repeated. -/
  | setting
  /-- Anything else; how deep it is nested is known. -/
  | nested (height : Nat)
  deriving DecidableEq, Repr

/-- How deep a part is nested. -/
def Part.height : Part → Nat
  | setting => 0
  | nested height => height

/-- What is read of a group. -/
structure Body where
  flags : Flags
  /-- The parts of the sequence that is being read, the last one first. -/
  sequence : List Part
  /-- How deep each alternative before it is nested. -/
  alternatives : List Nat
  deriving DecidableEq, Repr

namespace Body

/-- How deep the sequence that is being read is nested. -/
def sequenceHeight (b : Body) : Nat :=
  heightTogether (b.sequence.map Part.height)

/-- How deep a group is nested, apart from being one. -/
def height (b : Body) : Nat :=
  heightTogether (b.sequenceHeight :: b.alternatives)

/-- Takes in a part. -/
def push (b : Body) (part : Part) : Body :=
  { b with sequence := part :: b.sequence }

end Body

/-- Where the reading of a pattern stands. -/
structure State where
  /-- What is read of the innermost open group, or of the whole pattern. -/
  body : Body
  /-- The groups around it, the innermost first. -/
  outer : List Body
  /-- The open sets, the innermost first. -/
  sets : List OpenSet
  /-- The names of groups. -/
  names : List Text
  deriving DecidableEq, Repr

/-- Parts may be nested this deep. -/
def maxHeight : Nat := 250

/-- A character that can be in the name of a group. -/
def isNameCharacter (first : Bool) (c : Char) : Bool :=
  c = '_' || if first then Text.isAlphabetic c else Text.isAlphanumeric c || c ∈ ['.', '[', ']']

/-- A name that a group can have. -/
def isName : Text → Bool
  | [] => false
  | c :: cs => isNameCharacter true c && cs.all (isNameCharacter false)

namespace State

/-- Before the first character. -/
def start : State :=
  ⟨⟨.initial, [], []⟩, [], [], []⟩

/-- Takes in a part. -/
def push (st : State) (part : Part) : State :=
  { st with body := st.body.push part }

/-- Starts a group. -/
def openGroup (st : State) (flags : Flags) : State :=
  { st with body := ⟨flags, [], []⟩, outer := st.body :: st.outer }

/-- Reads the name of a group up to the sign at its end, and starts the group.  Names differ. -/
def openNamed (st : State) (t : Text) : Option (State × Text) :=
  let name := t.takeWhile (· ≠ '>')
  match t.dropWhile (· ≠ '>') with
  | [] => none
  | _ :: rest =>
    if isName name && !st.names.any (· = name) then
      some ({ st.openGroup st.body.flags with names := name :: st.names }, rest)
    else none

/-- Reads what follows an opening parenthesis: a name, flags, or the group itself. -/
def readOpening (st : State) (t : Text) : Option (State × Text) :=
  match st.body.flags.skip t with
  | '?' :: 'P' :: '<' :: rest | '?' :: '<' :: rest => st.openNamed rest
  | '?' :: rest =>
    match readFlags st.body.flags [] rest with
    | some (flags, .setting, rest) =>
      let st := st.push .setting
      some ({ st with body := { st.body with flags } }, rest)
    | some (flags, .group, rest) => some (st.openGroup flags, rest)
    | none => none
  | rest => some (st.openGroup st.body.flags, rest)

/-- Ends a group, which is a part of the one around it. -/
def closeGroup (st : State) : Option State :=
  match st.outer with
  | [] => none
  | body :: outer => some { st with body := body.push (.nested (1 + st.body.height)), outer }

/-- Ends an alternative. -/
def nextAlternative (st : State) : State :=
  let body := st.body
  { st with
    body := ⟨body.flags, [], body.sequenceHeight :: body.alternatives⟩ }

/-- Repeats the last part, which must not be a setting. -/
def repeatLast (st : State) : Option State :=
  match st.body.sequence with
  | .nested height :: parts =>
    some { st with body := { st.body with sequence := .nested (1 + height) :: parts } }
  | _ => none

/-- Reads on outside of sets, at a character that is not skipped.  Repetitions with a count cannot
    be completed, since a closing brace ends the pattern. -/
def stepInBody (st : State) (t : Text) : Option (State × Text) :=
  match t with
  | '(' :: rest => st.readOpening rest
  | ')' :: rest => st.closeGroup.map fun st => (st, rest)
  | '|' :: rest => some (st.nextAlternative, rest)
  | '[' :: rest => do
    let (set, rest) ← startSet st.body.flags rest
    return ({ st with sets := [set] }, rest)
  | '*' :: '?' :: rest | '+' :: '?' :: rest | '?' :: '?' :: rest
  | '*' :: rest | '+' :: rest | '?' :: rest => st.repeatLast.map fun st => (st, rest)
  | '{' :: _ => none
  | t => do
    let (symbol, rest) ← readSymbol st.body.flags t
    if symbol.isAllowed st.body.flags then return (st.push (.nested 0), rest) else none

/-- Reads on at a character that is not skipped. -/
def step (st : State) (t : Text) : Option (State × Text) :=
  match st.sets with
  | [] => st.stepInBody t
  | set :: sets => do
    match ← stepSets st.body.flags set sets t with
    | (.open_ sets, rest) => return ({ st with sets }, rest)
    | (.closed height, rest) => return ({ st with sets := [] }.push (.nested height), rest)

/-- All groups and sets are closed at the end, and nothing is nested too deep. -/
def isComplete (st : State) : Bool :=
  st.outer.isEmpty && st.sets.isEmpty && st.body.height ≤ maxHeight

end State

/-- Reads a text to its end.  Each step reads something of it. -/
def reads (st : State) (t : Text) : Bool :=
  match st.body.flags.skip t with
  | [] => st.isComplete
  | c :: cs =>
    match st.step (c :: cs) with
    | none => false
    | some (st, rest) => if rest.length < t.length then reads st rest else false
termination_by t.length

/-- A pattern that can be read to its end. -/
def wellFormed (t : Text) : Bool :=
  reads .start t

end MonkeyTokens.Pattern
