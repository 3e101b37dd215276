/-!
# Texts and their bytes

A text is a list of characters, and every place in it is counted in bytes of its UTF-8 form.
This module holds the two views of a text and the step between them.

* `Text.byteLength` — how many bytes a text takes;
* `Text.encode`, `Text.decode?` — the bytes of a text, and the text of some bytes if they are
  well formed;
* `Text.dropBytes?`, `Text.takeBytes?`, `Text.slice` — cutting a text at byte offsets.  A cut is
  possible only between two characters, so each of these can fail.
-/

namespace MonkeyTokens

/-- A text, one character after the other. -/
abbrev Text := List Char

/-- A text was to be cut at a place that is no boundary between two of its characters, be it
    inside a character, after the end, or before the start of the piece. -/
inductive SliceFault where
  | notABoundary
  deriving DecidableEq, Repr

namespace Text

/-- The number of bytes of a text in UTF-8. -/
def byteLength : Text → Nat
  | [] => 0
  | c :: cs => c.utf8Size + byteLength cs

@[simp] theorem byteLength_nil : byteLength [] = 0 := rfl

@[simp] theorem byteLength_cons (c : Char) (cs : Text) :
    byteLength (c :: cs) = c.utf8Size + byteLength cs := rfl

@[simp] theorem byteLength_append (a b : Text) :
    byteLength (a ++ b) = byteLength a + byteLength b := by
  induction a with
  | nil => simp
  | cons c cs ih => simp only [List.cons_append, byteLength_cons, ih]; omega

/-! ## Bytes -/

/-- The bytes of a text. -/
def encode (t : Text) : List UInt8 :=
  t.flatMap String.utf8EncodeChar

@[simp] theorem encode_nil : encode [] = [] := rfl

@[simp] theorem encode_append (a b : Text) : encode (a ++ b) = encode a ++ encode b := by
  simp [encode]

/-- The text whose bytes are given, if they are well-formed UTF-8: no stray or missing
    continuation byte, no overlong form, no surrogate and nothing beyond the last code point. -/
def decode? (bytes : List UInt8) : Option Text :=
  (String.fromUTF8? ⟨bytes.toArray⟩).map String.toList

/-! ## Cutting at byte offsets -/

/-- What follows the first `n` bytes, if a character ends there. -/
def dropBytes? : Text → Nat → Option Text
  | cs, 0 => some cs
  | [], _ + 1 => none
  | c :: cs, n + 1 => if c.utf8Size ≤ n + 1 then dropBytes? cs (n + 1 - c.utf8Size) else none

/-- The first `n` bytes, if a character ends there. -/
def takeBytes? : Text → Nat → Option Text
  | _, 0 => some []
  | [], _ + 1 => none
  | c :: cs, n + 1 =>
    if c.utf8Size ≤ n + 1 then (takeBytes? cs (n + 1 - c.utf8Size)).map (c :: ·) else none

/-- The piece of a text between two byte offsets. -/
def slice (t : Text) (start stop : Nat) : Except SliceFault Text :=
  if start ≤ stop then
    match (t.dropBytes? start).bind (·.takeBytes? (stop - start)) with
    | some piece => .ok piece
    | none => .error .notABoundary
  else .error .notABoundary

/-- **Cutting after a whole first part gives back the second.** -/
theorem dropBytes?_append (a b : Text) : dropBytes? (a ++ b) (byteLength a) = some b := by
  induction a with
  | nil => cases b <;> rfl
  | cons c cs ih =>
    have hc := c.utf8Size_pos
    obtain ⟨n, hn⟩ : ∃ n, c.utf8Size + byteLength cs = n + 1 :=
      ⟨c.utf8Size + byteLength cs - 1, by omega⟩
    have hle : c.utf8Size ≤ n + 1 := by omega
    have hsub : n + 1 - c.utf8Size = byteLength cs := by omega
    simp [List.cons_append, hn, dropBytes?, hle, hsub, ih]

/-- **Cutting before the second part gives back the whole first part.** -/
theorem takeBytes?_append (a b : Text) : takeBytes? (a ++ b) (byteLength a) = some a := by
  induction a with
  | nil => cases b <;> rfl
  | cons c cs ih =>
    have hc := c.utf8Size_pos
    obtain ⟨n, hn⟩ : ∃ n, c.utf8Size + byteLength cs = n + 1 :=
      ⟨c.utf8Size + byteLength cs - 1, by omega⟩
    have hle : c.utf8Size ≤ n + 1 := by omega
    have hsub : n + 1 - c.utf8Size = byteLength cs := by omega
    simp [List.cons_append, hn, takeBytes?, hle, hsub, ih]

end Text

end MonkeyTokens
