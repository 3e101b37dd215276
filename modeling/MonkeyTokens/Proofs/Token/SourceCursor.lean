import MonkeyTokens.Proofs.Text.Slice
import MonkeyTokens.Proofs.Token.Stream

/-!
# A cursor that cuts its source

A cursor can do without the text ahead of it: with the whole source at hand, two offsets and the
current character are enough, and everything else is cut out of the source when it is needed.
Every such cut can fail.  This file says that none ever does.

* `Cursor.Standing`, `Cursor.Passes` — a cursor's place in a source, and the text between two such
  places; each way of reading passes over what it gives (`Standing.readWhile`,
  `Standing.readLexeme`);
* `SourceCursor` — offsets into a source; `SourceCursor.nextToken` cuts out of it what follows the
  current character, the name it looks up, and the text of the token;
* **`Cursor.Standing.nextToken_inSource`** — a call of it makes no failing cut, and answers and
  moves as the cursor does.
-/

namespace MonkeyTokens

open Grammar Text

/-! ## Places in a source -/

namespace Cursor

/-- The cursor stands at a place of the source. -/
def Standing (source : Text) (c : Cursor) : Prop :=
  ∃ past rest, source = past ++ rest ∧ c = before (byteLength past) rest

/-- This text lies between two places of the source. -/
def Passes (source : Text) (c : Cursor) (t : Text) (d : Cursor) : Prop :=
  ∃ past rest, source = past ++ (t ++ rest) ∧
    c = before (byteLength past) (t ++ rest) ∧ d = before (byteLength (past ++ t)) rest

variable {source t u : Text} {c d e : Cursor}

lemma standing_ofText (source : Text) : Standing source (ofText source) :=
  ⟨[], source, rfl, ofText_eq_before source⟩

lemma Standing.passes_nil (h : Standing source c) : Passes source c [] c := by
  obtain ⟨past, rest, hsource, rfl⟩ := h
  exact ⟨past, rest, hsource, rfl, by rw [List.append_nil]⟩

lemma Passes.standing (h : Passes source c t d) : Standing source d := by
  obtain ⟨past, rest, rfl, -, rfl⟩ := h
  exact ⟨past ++ t, rest, by rw [List.append_assoc], rfl⟩

/-- A place is known from its offset. -/
lemma before_inj {past rest a b : Text} (hsource : past ++ rest = a ++ b)
    (h : before (byteLength past) rest = before (byteLength a) b) : past = a ∧ rest = b := by
  have hlen := congrArg position h
  simp only [position_before] at hlen
  exact append_inj_of_byteLength hsource hlen

lemma Passes.trans (h : Passes source c t d) (h' : Passes source d u e) :
    Passes source c (t ++ u) e := by
  obtain ⟨past, rest, rfl, rfl, rfl⟩ := h
  obtain ⟨a, b, hsource, hd, rfl⟩ := h'
  rw [← List.append_assoc] at hsource
  obtain ⟨rfl, rfl⟩ := before_inj hsource hd
  exact ⟨past, b, by simp, by simp, by simp⟩

/-- What lies between two places is a slice of the source. -/
lemma Passes.slice_eq (h : Passes source c t d) :
    source.slice c.position d.position = .ok t := by
  obtain ⟨past, rest, rfl, rfl, rfl⟩ := h
  rw [position_before, position_before, byteLength_append, ← List.append_assoc]
  exact slice_append past t rest

/-! ## Reading passes over what it gives -/

lemma Standing.advance {ch : Char} (h : Standing source c) (hc : c.current = some ch) :
    Passes source c [ch] c.advance := by
  obtain ⟨past, rest, rfl, rfl⟩ := h
  rw [current_before] at hc
  obtain ⟨r, rfl⟩ := List.head?_eq_some_iff.mp hc
  refine ⟨past, r, rfl, rfl, ?_⟩
  rw [advance_before, byteLength_append, byteLength_cons, byteLength_nil, Nat.add_zero]

lemma Standing.readWhile (h : Standing source c) (p : Char → Bool) :
    Passes source c (c.readWhile p).1 (c.readWhile p).2 := by
  obtain ⟨past, rest, rfl, rfl⟩ := h
  obtain ⟨r, hr⟩ := List.takeWhile_prefix (l := rest) p
  refine ⟨past, r, ?_⟩
  rw [readWhile_before]
  generalize rest.takeWhile p = run at hr ⊢
  subst hr
  rw [List.drop_left, byteLength_append]
  exact ⟨rfl, rfl, rfl⟩

lemma Standing.readLexeme (h : Standing source c) (ch : Char) :
    Passes source c (c.readLexeme ch).2.1 (c.readLexeme ch).2.2 := by
  obtain ⟨past, rest, rfl, rfl⟩ := h
  obtain ⟨r, hr⟩ := munch_prefix ch rest
  refine ⟨past, r, ?_⟩
  rw [readLexeme_before]
  generalize (munch ch rest).2 = read at hr ⊢
  subst hr
  rw [List.drop_left, byteLength_append]
  exact ⟨rfl, rfl, rfl⟩

/-- The text of a token lies between where it is read and where the cursor stops. -/
lemma Standing.readToken (h : Standing source c) :
    Passes source c c.readToken.1.text c.readToken.2 := by
  cases hc : c.current with
  | none =>
      rw [Cursor.readToken, hc]
      exact h.passes_nil
  | some ch =>
      rw [Cursor.readToken, hc]
      exact (h.advance hc).trans ((h.advance hc).standing.readLexeme ch)

lemma Standing.nextToken (h : Standing source c) : Standing source c.nextToken.2 :=
  (h.readWhile isGap).standing.readToken.standing

end Cursor

/-! ## Cutting a source -/

/-- A place in a source that is at hand as a whole. -/
structure SourceCursor where
  source : Text
  /-- The byte offset of the current character, or of the end. -/
  position : Nat
  /-- The byte offset just after the current character. -/
  readPosition : Nat
  /-- The current character, if the end is not reached. -/
  current : Option Char
  deriving DecidableEq, Repr

namespace SourceCursor

/-- Steps over the current character: the next one is the first of what is still to be read. -/
def readChar (s : SourceCursor) : Except SliceFault SourceCursor :=
  match s.source.slice s.readPosition s.source.byteLength with
  | .ok rest =>
    .ok { s with
      position := s.readPosition
      readPosition := s.readPosition + (rest.head?.map Char.utf8Size).getD 0
      current := rest.head? }
  | .error fault => .error fault

/-- The cursor at the start of a source. -/
def ofText (source : Text) : Except SliceFault SourceCursor :=
  readChar ⟨source, 0, 0, none⟩

/-- How much there is still to be stepped over. -/
def ahead (s : SourceCursor) : Nat :=
  2 * (s.source.byteLength - s.readPosition) + if s.current.isSome then 1 else 0

/-- A step over a character leaves less to be stepped over. -/
lemma ahead_readChar {s r : SourceCursor} {ch : Char} (hc : s.current = some ch)
    (h : s.readChar = .ok r) : r.ahead < s.ahead := by
  unfold readChar at h
  split at h
  · next rest hslice =>
      obtain rfl : _ = r := Except.ok.inj h
      obtain ⟨a, b, hsource, ha, hstop⟩ := slice_eq_ok_iff.mp hslice
      have hlen : s.readPosition + byteLength rest = s.source.byteLength := by omega
      cases rest with
      | nil => simp [ahead, hc]
      | cons d r =>
          have hd := d.utf8Size_pos
          rw [byteLength_cons] at hlen
          simp only [ahead, hc, List.head?_cons, Option.map_some, Option.getD_some,
            Option.isSome_some, if_true]
          omega
  · simp at h

/-- Steps over characters as long as they satisfy `p`. -/
def readWhile (p : Char → Bool) (s : SourceCursor) : Except SliceFault SourceCursor :=
  match _hc : s.current with
  | some ch =>
    if p ch then
      match _h : s.readChar with
      | .ok s => readWhile p s
      | .error fault => .error fault
    else .ok s
  | none => .ok s
  termination_by s.ahead
  decreasing_by exact ahead_readChar _hc _h

lemma readWhile_of_stop {p : Char → Bool} {s : SourceCursor}
    (h : ∀ ch ∈ s.current, ¬ p ch = true) : s.readWhile p = .ok s := by
  rw [readWhile]
  split
  · next ch hc => rw [if_neg (h ch hc)]
  · rfl

lemma readWhile_of_step {p : Char → Bool} {s r : SourceCursor} {ch : Char}
    (hc : s.current = some ch) (hp : p ch = true) (h : s.readChar = .ok r) :
    s.readWhile p = r.readWhile p := by
  rw [readWhile]
  split
  · next d hd =>
      obtain rfl : ch = d := Option.some.inj (hc.symm.trans hd)
      rw [if_pos hp]
      split
      · next r' hr => rw [Except.ok.inj (h.symm.trans hr)]
      · next fault hf => simp [h] at hf
  · next hd => simp [hc] at hd

/-- Steps over the current character if it is `wanted`, and tells whether it was. -/
def readOne (wanted : Char) (s : SourceCursor) : Except SliceFault (Bool × SourceCursor) :=
  if s.current = some wanted then do
    return (true, ← s.readChar)
  else return (false, s)

/-- The kind of the lexeme that starts with `ch` at byte offset `start`, read by a cursor that
    stands just after `ch`.  A word is cut out to be looked up. -/
def readLexeme (start : Nat) (ch : Char) (s : SourceCursor) :
    Except SliceFault (Kind × SourceCursor) :=
  if ch = '=' then do
    let (doubled, s) ← s.readOne '='
    return (.operator (if doubled then .equal else .assign), s)
  else if ch = '!' then do
    let (doubled, s) ← s.readOne '='
    return (.operator (if doubled then .notEqual else .bang), s)
  else if ch.isDigit then do
    return (.integer, ← s.readWhile Char.isDigit)
  else if startsName ch then do
    let s ← s.readWhile continuesName
    let name ← s.source.slice start s.position
    return (.ofWord name, s)
  else return ((Kind.ofCharacter? ch).getD .illegal, s)

/-- The token at the cursor, where no gap is, and the cursor after it.  The text of the token is
    cut out of the source. -/
def readToken (s : SourceCursor) : Except SliceFault (Token × SourceCursor) :=
  match s.current with
  | none => do
    let text ← s.source.slice s.position s.position
    return (⟨.eof, text, ⟨s.position, s.position⟩⟩, s)
  | some ch => do
    let (kind, stopped) ← (← s.readChar).readLexeme s.position ch
    let text ← s.source.slice s.position stopped.position
    return (⟨kind, text, ⟨s.position, stopped.position⟩⟩, stopped)

/-- The next token and the cursor after it. -/
def nextToken (s : SourceCursor) : Except SliceFault (Token × SourceCursor) := do
  (← s.readWhile isGap).readToken

end SourceCursor

/-! ## No cut fails -/

namespace Cursor

/-- The same place, in the source at hand. -/
def inSource (source : Text) (c : Cursor) : SourceCursor :=
  ⟨source, c.position, c.readPosition, c.current⟩

variable {source t : Text} {c d : Cursor}

lemma ofText_inSource (source : Text) :
    SourceCursor.ofText source = .ok ((ofText source).inSource source) := by
  have hslice : source.slice 0 source.byteLength = .ok source := slice_suffix [] source
  rw [SourceCursor.ofText, SourceCursor.readChar]
  simp only [hslice]
  rfl

lemma Standing.readChar_inSource {ch : Char} (h : Standing source c) (hc : c.current = some ch) :
    (c.inSource source).readChar = .ok (c.advance.inSource source) := by
  obtain ⟨past, rest, rfl, rfl⟩ := h
  rw [current_before] at hc
  obtain ⟨r, rfl⟩ := List.head?_eq_some_iff.mp hc
  have hslice := slice_suffix (past ++ [ch]) r
  simp only [List.append_assoc, List.singleton_append, byteLength_append, byteLength_cons,
    byteLength_nil, Nat.add_zero] at hslice
  rw [SourceCursor.readChar]
  simp only [inSource, before, byteLength_append, byteLength_cons, hslice]
  rfl

lemma Standing.readWhile_inSource (h : Standing source c) (p : Char → Bool) :
    (c.inSource source).readWhile p = .ok ((c.readWhile p).2.inSource source) := by
  fun_induction Cursor.readWhile p c with
  | case1 c ch hc hp read stopped hread ih =>
      rw [SourceCursor.readWhile_of_step hc hp (h.readChar_inSource hc),
        ih (h.advance hc).standing, hread]
  | case2 c ch hc hp =>
      refine SourceCursor.readWhile_of_stop fun d hd => ?_
      obtain rfl : ch = d := Option.some.inj (hc.symm.trans hd)
      exact hp
  | case3 c hc =>
      refine SourceCursor.readWhile_of_stop fun d hd => ?_
      have hnone : c.current = some d := hd
      simp [hc] at hnone

lemma Standing.readOne_inSource (h : Standing source c) (wanted : Char) :
    (c.inSource source).readOne wanted =
      .ok (decide ((c.readOne wanted).1 ≠ []), (c.readOne wanted).2.inSource source) := by
  unfold SourceCursor.readOne Cursor.readOne
  by_cases hc : c.current = some wanted
  · have hcur : (c.inSource source).current = some wanted := hc
    rw [if_pos hc, if_pos hcur, h.readChar_inSource hc]
    rfl
  · have hcur : ¬ (c.inSource source).current = some wanted := hc
    rw [if_neg hc, if_neg hcur]
    rfl

/-- Reading a lexeme makes no failing cut.  The word that is looked up is the character before the
    cursor and what was read after it. -/
lemma Standing.readLexeme_inSource {ch : Char} (h : Standing source c)
    (hc : c.current = some ch) :
    (c.advance.inSource source).readLexeme c.position ch =
      .ok ((c.advance.readLexeme ch).1, (c.advance.readLexeme ch).2.2.inSource source) := by
  have hone := h.advance hc
  have hstand := hone.standing
  unfold SourceCursor.readLexeme Cursor.readLexeme
  split_ifs with h1 h2 h3 h4
  · rw [hstand.readOne_inSource]
    by_cases hread : (c.advance.readOne '=').1 = [] <;> simp [hread]
  · rw [hstand.readOne_inSource]
    by_cases hread : (c.advance.readOne '=').1 = [] <;> simp [hread]
  · rw [hstand.readWhile_inSource]
    rfl
  · have hword := (hone.trans (hstand.readWhile continuesName)).slice_eq
    rw [hstand.readWhile_inSource]
    show (do
      let name ← source.slice c.position (c.advance.readWhile continuesName).2.position
      return (Kind.ofWord name, _)) = _
    rw [hword]
    rfl
  · rfl

lemma Standing.readToken_inSource (h : Standing source c) :
    (c.inSource source).readToken = .ok (c.readToken.1, c.readToken.2.inSource source) := by
  have htext := h.readToken.slice_eq
  unfold SourceCursor.readToken
  cases hc : c.current with
  | none =>
      have hcur : (c.inSource source).current = none := hc
      have hread : c.readToken = (.endOfInput c.position, c) := by rw [Cursor.readToken, hc]
      have hnil : source.slice c.position c.position = .ok [] := h.passes_nil.slice_eq
      rw [hcur, hread]
      show (source.slice c.position c.position >>= _) = _
      rw [hnil]
      rfl
  | some ch =>
      have hcur : (c.inSource source).current = some ch := hc
      rw [hcur]
      show ((c.inSource source).readChar >>= fun s =>
        s.readLexeme c.position ch >>= _) = _
      rw [h.readChar_inSource hc]
      show ((c.advance.inSource source).readLexeme c.position ch >>= _) = _
      rw [h.readLexeme_inSource hc]
      rw [Cursor.readToken, hc] at htext ⊢
      show (source.slice c.position (c.advance.readLexeme ch).2.2.position >>= _) = _
      rw [htext]
      rfl

/-- **A call makes no failing cut**, and it answers and moves as the cursor does that has the text
    ahead of it. -/
theorem Standing.nextToken_inSource (h : Standing source c) :
    (c.inSource source).nextToken = .ok (c.nextToken.1, c.nextToken.2.inSource source) := by
  rw [SourceCursor.nextToken, h.readWhile_inSource]
  exact (h.readWhile isGap).standing.readToken_inSource

end Cursor

end MonkeyTokens
