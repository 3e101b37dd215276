import MonkeyTokens.Text.Utf8

/-!
# Lines

Input is cut into lines before it is decoded: a line of bytes runs up to and including its line
feed, and only the last one may lack it.

* `rawLines` — the lines of some bytes;
* `Line.ofText` — a line apart from its ending, which is a line feed, a carriage return with a
  line feed, or nothing.
-/

namespace MonkeyTokens

/-- The lines of some bytes, each with its line feed. -/
def rawLines : List UInt8 → List (List UInt8)
  | [] => []
  | b :: bs =>
    if b = 10 then [b] :: rawLines bs
    else
      match rawLines bs with
      | [] => [[b]]
      | line :: lines => (b :: line) :: lines

/-- A line of text, apart from the characters that end it. -/
structure Line where
  /-- What stands in the line. -/
  body : Text
  /-- A line feed, a carriage return and a line feed, or nothing at the end of the input. -/
  ending : Text
  deriving DecidableEq, Repr

/-- Takes the ending off a text.  A carriage return belongs to it only before a line feed. -/
def Line.ofText (t : Text) : Line :=
  match t.reverse with
  | '\n' :: '\r' :: rest => ⟨rest.reverse, ['\r', '\n']⟩
  | '\n' :: rest => ⟨rest.reverse, ['\n']⟩
  | _ => ⟨t, []⟩

/-- Body and ending are the whole text. -/
theorem Line.body_append_ending (t : Text) :
    (Line.ofText t).body ++ (Line.ofText t).ending = t := by
  unfold Line.ofText
  split
  · next rest h => simpa using (congrArg List.reverse h).symm
  · next rest h => simpa using (congrArg List.reverse h).symm
  · simp

end MonkeyTokens
