import MonkeyTokens.Text.Cluster

/-!
# Backspaces in piped input

A backspace character in a line that was not typed at a terminal takes back what stands before it.

* `Text.Kept` — what is left of a text, and what the next backspaces take back of it;
* `Text.applyBackspaces` — a text with its backspaces carried out.

How much a backspace takes back is kept in one byte.  Of a cluster of 256 bytes or more it takes
back less than the whole, and it fails if that much does not end between two characters.
-/

namespace MonkeyTokens.Text

/-- The backspace character. -/
def backspace : Char := '\x08'

/-- What is left of a text whose backspaces are carried out up to some place. -/
structure Kept where
  /-- The characters, the last one first. -/
  characters : Text
  /-- The number of bytes that each further backspace takes back, in one byte. -/
  sizes : List Nat
  deriving DecidableEq, Repr

namespace Kept

/-- Nothing is kept yet. -/
def empty : Kept :=
  ⟨[], []⟩

/-- Keeps a cluster. -/
def keep (k : Kept) (cluster : Text) : Kept :=
  ⟨cluster.reverse ++ k.characters, cluster.byteLength % 256 :: k.sizes⟩

/-- Carries out a backspace; without anything to take back it does nothing. -/
def takeBack (k : Kept) : Except SliceFault Kept :=
  match k.sizes with
  | [] => .ok k
  | size :: sizes =>
    match k.characters.dropBytes? size with
    | some characters => .ok ⟨characters, sizes⟩
    | none => .error .notABoundary

/-- Goes on with the next cluster. -/
def step (k : Kept) (cluster : Text) : Except SliceFault Kept :=
  if cluster = [backspace] then k.takeBack else .ok (k.keep cluster)

end Kept

/-- Carries out backspaces: each takes back the cluster before it that is still there. -/
def applyBackspaces (t : Text) : Except SliceFault Text :=
  if backspace ∈ t then
    ((clusters t).foldlM Kept.step Kept.empty).map fun k => k.characters.reverse
  else .ok t

end MonkeyTokens.Text
