import MonkeyTokens.Token.Scan

/-!
# Reading tokens one at a time

A cursor stands at a character of a source, or at its end, and has read nothing beyond that
character.  It moves forward only.

* `Cursor.ofText` — the cursor at the start of a source;
* `Cursor.nextToken` — the next token; at the end of the source always the same end-of-input
  token;
* `Cursor.next?`, `nth?`, `take`, `find?`, `remaining` — the tokens before the end, as a sequence
  that is used up;
* `Cursor.length_rest_nextToken` — every token but the end of the input uses up some source.
-/

namespace MonkeyTokens

/-- A place in a source. -/
structure Cursor where
  /-- The byte offset of the current character, or of the end. -/
  position : Nat
  /-- The byte offset just after the current character. -/
  readPosition : Nat
  /-- The current character, if the end is not reached. -/
  current : Option Char
  /-- What follows the current character. -/
  ahead : Text
  deriving DecidableEq, Repr

namespace Cursor

/-- Steps over the current character. -/
def advance (c : Cursor) : Cursor :=
  { position := c.readPosition
    readPosition := c.readPosition + (c.ahead.head?.map Char.utf8Size).getD 0
    current := c.ahead.head?
    ahead := c.ahead.tail }

/-- The cursor at the start of a source. -/
def ofText (source : Text) : Cursor :=
  advance ⟨0, 0, none, source⟩

/-- The source from the current character on. -/
def rest (c : Cursor) : Text :=
  c.current.toList ++ c.ahead

theorem rest_advance (c : Cursor) : c.advance.rest = c.ahead := by
  cases h : c.ahead <;> simp [advance, rest, h]

theorem length_rest_advance {c : Cursor} {ch : Char} (h : c.current = some ch) :
    c.advance.rest.length < c.rest.length := by
  rw [rest_advance]
  simp [rest, h]

/-- Steps over characters as long as they satisfy `p`, and collects them. -/
def readWhile (p : Char → Bool) (c : Cursor) : Text × Cursor :=
  match _h : c.current with
  | some ch =>
    if p ch then
      let (read, stopped) := readWhile p c.advance
      (ch :: read, stopped)
    else ([], c)
  | none => ([], c)
  termination_by c.rest.length
  decreasing_by exact length_rest_advance _h

/-- Steps over the current character if it is `wanted`. -/
def readOne (wanted : Char) (c : Cursor) : Text × Cursor :=
  if c.current = some wanted then ([wanted], c.advance) else ([], c)

/-- The rest of the lexeme that `ch` starts, read by a cursor that stands just after `ch`. -/
def readLexeme (ch : Char) (c : Cursor) : Kind × Text × Cursor :=
  if ch = '=' then
    let (read, stopped) := c.readOne '='
    (.operator (if read = [] then .assign else .equal), read, stopped)
  else if ch = '!' then
    let (read, stopped) := c.readOne '='
    (.operator (if read = [] then .bang else .notEqual), read, stopped)
  else if ch.isDigit then
    let (read, stopped) := c.readWhile Char.isDigit
    (.integer, read, stopped)
  else if startsName ch then
    let (read, stopped) := c.readWhile continuesName
    (.ofWord (ch :: read), read, stopped)
  else ((Kind.ofCharacter? ch).getD .illegal, [], c)

/-- Steps over the gap at the cursor. -/
def skipGap (c : Cursor) : Cursor :=
  (c.readWhile isGap).2

/-- The token at the cursor, where no gap is, and the cursor after it. -/
def readToken (c : Cursor) : Token × Cursor :=
  match c.current with
  | none => (.endOfInput c.position, c)
  | some ch =>
    let (kind, read, stopped) := c.advance.readLexeme ch
    (⟨kind, ch :: read, ⟨c.position, stopped.position⟩⟩, stopped)

/-- The next token and the cursor after it. -/
def nextToken (c : Cursor) : Token × Cursor :=
  c.skipGap.readToken

/-! ## Progress -/

theorem length_rest_readWhile (p : Char → Bool) (c : Cursor) :
    (c.readWhile p).2.rest.length ≤ c.rest.length := by
  fun_induction readWhile p c with
  | case1 c ch h _ _ _ hr ih =>
    rw [hr] at ih
    exact Nat.le_of_lt (Nat.lt_of_le_of_lt ih (length_rest_advance h))
  | case2 => exact Nat.le_refl _
  | case3 => exact Nat.le_refl _

theorem length_rest_readOne (wanted : Char) (c : Cursor) :
    (c.readOne wanted).2.rest.length ≤ c.rest.length := by
  unfold readOne
  split
  · next h => exact Nat.le_of_lt (length_rest_advance h)
  · exact Nat.le_refl _

theorem length_rest_readLexeme (ch : Char) (c : Cursor) :
    (c.readLexeme ch).2.2.rest.length ≤ c.rest.length := by
  unfold readLexeme
  split
  · exact length_rest_readOne _ c
  split
  · exact length_rest_readOne _ c
  split
  · exact length_rest_readWhile _ c
  split
  · exact length_rest_readWhile _ c
  · exact Nat.le_refl _

theorem length_rest_readToken (c : Cursor) (h : c.readToken.1.isEof = false) :
    c.readToken.2.rest.length < c.rest.length := by
  cases hc : c.current with
  | none => simp [readToken, hc, Token.endOfInput, Token.isEof] at h
  | some ch =>
    rw [readToken, hc]
    exact Nat.lt_of_le_of_lt (length_rest_readLexeme ch c.advance) (length_rest_advance hc)

/-- **A token that is not the end of the input uses up some source.** -/
theorem length_rest_nextToken (c : Cursor) (h : c.nextToken.1.isEof = false) :
    c.nextToken.2.rest.length < c.rest.length :=
  Nat.lt_of_lt_of_le (length_rest_readToken c.skipGap h) (length_rest_readWhile isGap c)

/-! ## The tokens before the end, as a sequence -/

/-- The next token, unless it is the end of the input. -/
def next? (c : Cursor) : Option Token × Cursor :=
  let (token, stopped) := c.nextToken
  (if token.isEof then none else some token, stopped)

theorem length_rest_next? {c d : Cursor} {t : Token} (h : c.next? = (some t, d)) :
    d.rest.length < c.rest.length := by
  have hne : c.nextToken.1.isEof = false := by
    cases he : c.nextToken.1.isEof
    · rfl
    · simp [next?, he] at h
  have hd : c.nextToken.2 = d := congrArg Prod.snd h
  exact hd ▸ length_rest_nextToken c hne

/-- Passes over `n` tokens and gives the one after them; gives none as soon as one is missing. -/
def nth? : Nat → Cursor → Option Token × Cursor
  | 0, c => c.next?
  | n + 1, c =>
    match c.next? with
    | (some _, d) => nth? n d
    | (none, d) => (none, d)

/-- At most `n` tokens.  No token beyond them is read. -/
def take : Nat → Cursor → List Token × Cursor
  | 0, c => ([], c)
  | n + 1, c =>
    match c.next? with
    | (some t, d) =>
      let (tokens, stopped) := take n d
      (t :: tokens, stopped)
    | (none, d) => ([], d)

/-- Passes over tokens up to the first one of the given kind. -/
def find? (kind : Kind) (c : Cursor) : Option Token × Cursor :=
  match _h : c.next? with
  | (some t, d) => if t.kind = kind then (some t, d) else find? kind d
  | (none, d) => (none, d)
  termination_by c.rest.length
  decreasing_by exact length_rest_next? _h

/-- All tokens that are left. -/
def remaining (c : Cursor) : List Token × Cursor :=
  match _h : c.next? with
  | (some t, d) =>
    let (tokens, stopped) := remaining d
    (t :: tokens, stopped)
  | (none, d) => ([], d)
  termination_by c.rest.length
  decreasing_by exact length_rest_next? _h

/-- The number of tokens that are left, all of which are passed over. -/
def count (c : Cursor) : Nat × Cursor :=
  let (tokens, stopped) := c.remaining
  (tokens.length, stopped)

/-- The last token that is left, if there is one; all are passed over. -/
def last? (c : Cursor) : Option Token × Cursor :=
  let (tokens, stopped) := c.remaining
  (tokens.getLast?, stopped)

end Cursor

end MonkeyTokens
