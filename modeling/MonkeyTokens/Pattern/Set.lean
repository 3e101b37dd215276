import MonkeyTokens.Pattern.Symbol

/-!
# Sets in patterns

A set of characters stands between brackets: characters, ranges, named classes and other sets, and
operators between such lists.

* `Pattern.OpenSet`, `OpenSet.height` — a set that is being read, and how deep sets are nested in
  it;
* `Pattern.startSet`, `Pattern.readItem` — the start of a set, and an item of one;
* `Pattern.stepSets` — a step in reading sets within each other.
-/

namespace MonkeyTokens.Pattern

/-- How deep parts are nested if they stand side by side. -/
def heightTogether : List Nat → Nat
  | [] => 0
  | [height] => height
  | heights => 1 + heights.foldl max 0

/-- A set that is being read. -/
structure OpenSet where
  /-- How deep each item after the last operator is nested. -/
  items : List Nat
  /-- How deep what stands before the last operator is nested. -/
  left : Option Nat
  /-- Only minus signs have been read, which are items at the start. -/
  fresh : Bool
  deriving DecidableEq, Repr

namespace OpenSet

/-- How deep sets and operators are nested in a set. -/
def height (s : OpenSet) : Nat :=
  match s.left with
  | none => heightTogether s.items
  | some left => 1 + max left (heightTogether s.items)

/-- Takes in an item. -/
def push (s : OpenSet) (height : Nat) : OpenSet :=
  { s with items := height :: s.items }

/-- Takes in an operator. -/
def operate (s : OpenSet) : OpenSet :=
  ⟨[], some s.height, false⟩

end OpenSet

/-- The names of classes. -/
def classNames : List Text :=
  ["alnum".toList, "alpha".toList, "ascii".toList, "blank".toList, "cntrl".toList,
    "digit".toList, "graph".toList, "lower".toList, "print".toList, "punct".toList,
    "space".toList, "upper".toList, "word".toList, "xdigit".toList]

/-- Reads a named class after its first bracket, if it is one: whether it is negated, and what
    follows. -/
def readNamedClass : Text → Option (Bool × Text)
  | ':' :: t =>
    let negated := t.head? = some '^'
    let name := if negated then t.tail else t
    match name.dropWhile (· ≠ ':') with
    | ':' :: ']' :: rest =>
      if classNames.any (· = name.takeWhile (· ≠ ':')) then some (negated, rest) else none
    | _ => none
  | _ => none

/-- A class, or its negation, can be used in a set. -/
def isAllowedClass (f : Flags) (negated : Bool) : Bool :=
  if f.unicode then !f.ignoresCase else !negated

/-- Starts a set after its bracket.  What is not in a set of bytes need not be a character. -/
def startSet (f : Flags) (t : Text) : Option (OpenSet × Text) :=
  match f.skip t with
  | '^' :: rest => if f.unicode then some (⟨[], none, true⟩, f.skip rest) else none
  | rest => some (⟨[], none, true⟩, rest)

/-- Reads a character, a class or a range. -/
def readItem (f : Flags) (t : Text) : Option Text := do
  let (first, rest) ← readSetSymbol f t
  let single : Option Text := if first.isAllowedInSet f then some (f.skip rest) else none
  match f.skip rest with
  | [] => none
  | '-' :: more =>
    if f.peek more = some ']' || f.peek more = some '-' then single
    else
      let (last, rest) ← readSetSymbol f (f.skip more)
      match first, last with
      | .character low _, .character high _ =>
        if low.toNat ≤ high.toNat && first.isAllowedInSet f && last.isAllowedInSet f then some rest
        else none
      | _, _ => none
  | _ => single

/-- What is left to read of sets: those that are open, the innermost first, or, if the last one is
    closed, how deep it is nested. -/
inductive SetsLeft where
  | open_ (sets : List OpenSet)
  | closed (height : Nat)
  deriving DecidableEq, Repr

/-- Closes a set, which is an item of the set around it if there is one. -/
def closeSet (s : OpenSet) : List OpenSet → SetsLeft
  | [] => .closed (1 + s.height)
  | outer :: sets => .open_ (outer.push (1 + s.height) :: sets)

/-- Reads on in a set, at a character that is not skipped. -/
def stepInSet (f : Flags) (s : OpenSet) (sets : List OpenSet) (t : Text) :
    Option (SetsLeft × Text) :=
  match t with
  | '[' :: rest =>
    match readNamedClass rest with
    | some (negated, rest) =>
      if isAllowedClass f negated then some (.open_ (s.push 0 :: sets), rest) else none
    | none => do
      let (inner, rest) ← startSet f rest
      return (.open_ (inner :: s :: sets), rest)
  | ']' :: rest => some (closeSet s sets, rest)
  | '&' :: '&' :: rest | '-' :: '-' :: rest | '~' :: '~' :: rest =>
    some (.open_ (s.operate :: sets), rest)
  | t => (readItem f t).map fun rest => (.open_ (s.push 0 :: sets), rest)

/-- Reads on in the innermost of open sets.  At its start a minus sign is an item, and so is a
    bracket that nothing stands before. -/
def stepSets (f : Flags) (s : OpenSet) (sets : List OpenSet) (t : Text) :
    Option (SetsLeft × Text) :=
  let asItem (rest : Text) (fresh : Bool) : Option (SetsLeft × Text) :=
    if (Symbol.character ']' false).isAllowedInSet f then
      some (.open_ ({ s.push 0 with fresh } :: sets), rest)
    else none
  match t, s.fresh, s.items with
  | '-' :: rest, true, _ => asItem rest true
  | ']' :: rest, true, [] => asItem rest false
  | t, _, _ => stepInSet f { s with fresh := false } sets t

end MonkeyTokens.Pattern
