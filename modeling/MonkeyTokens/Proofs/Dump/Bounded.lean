import MonkeyTokens.Proofs.Program.Console
import MonkeyTokens.Proofs.Token.Stream

/-!
# Dumps to a destination that fills up

A destination may take only so many bytes.  Then a dump stops at the first byte that is refused, be
it inside a character, inside an escape sequence or between a line and its line feed, and there is
no summary of it.

**Token by token.**  `Dump.writeRemaining` dumps the tokens that a cursor gives while it gives them,
and stops with the first that is refused.  The tokens behind that one are never read.  It comes to
the same as writing all pieces of all tokens (`Dump.writeRemaining_of_scanned`), by induction on the
derivation of the tokens.

**Byte by byte.**  A sink takes the pieces of a dump as it takes their bytes at once
(`Sink.writeAll_eq`), so nothing but the number of bytes decides (`Dump.write_bounded`).

**`dump_to_bounded_sink`** compares the dump to a sink with a bound with the dump to a sink without.
-/

namespace MonkeyTokens

open Grammar Text

namespace Dump

/-! ## Token by token -/

/-- What was seen, with one token more. -/
def Summary.add (seen : Summary) (t : Token) : Summary :=
  ⟨seen.tokens + 1, if t.isIllegal then seen.illegal ++ [t] else seen.illegal⟩

/-- Dumps the tokens that are left for a cursor, each as soon as it is read. -/
def writeRemaining {ω : Type} [Writer ω] (color : Bool) (seen : Summary) (c : Cursor) (out : ω) :
    Except SystemError Summary × ω :=
  match _h : c.next? with
  | (none, _) => (.ok seen, out)
  | (some t, d) =>
    match Writer.writeAll [t.render color, ['\n']] out with
    | (some cause, out) => (.error cause, out)
    | (none, out) => writeRemaining color (seen.add t) d out
  termination_by c.rest.length
  decreasing_by exact Cursor.length_rest_next? _h

/-- What a dump comes to if this is to be its summary. -/
def conclude {ω : Type} (summary : Summary) : Written ω → Except SystemError Summary × ω
  | (none, out) => (.ok summary, out)
  | (some cause, out) => (.error cause, out)

variable {ω : Type} [Writer ω]

lemma write_eq_conclude (color : Bool) (source : Text) (out : ω) :
    write color source out =
      conclude (.ofTokens (scan source)) (Writer.writeAll (pieces color (scan source)) out) := by
  rw [write]
  generalize Writer.writeAll (pieces color (scan source)) out = r
  obtain ⟨refused, out⟩ := r
  cases refused <;> rfl

/-- What was seen of some tokens, after others. -/
lemma foldl_add (seen : Summary) (ts : List Token) :
    ts.foldl Summary.add seen =
      ⟨seen.tokens + ts.length, seen.illegal ++ ts.filter Token.isIllegal⟩ := by
  induction ts generalizing seen with
  | nil => simp
  | cons t ts ih =>
      rw [List.foldl_cons, ih, Summary.add]
      cases ht : t.isIllegal <;> simp [ht] <;> omega

/-- **Token by token** a dump comes to what it comes to with all tokens at hand. -/
theorem writeRemaining_of_scanned {n : Nat} {s : Text} {ts : List Token} (h : Scanned n s ts)
    (color : Bool) (seen : Summary) (out : ω) :
    writeRemaining color seen (.before n s) out =
      conclude (ts.foldl Summary.add seen) (Writer.writeAll (pieces color ts) out) := by
  induction h generalizing seen out with
  | done hgap =>
      rw [writeRemaining, Cursor.next?_of_gap hgap]
      rfl
  | @token n gap text rest k ts hgap hlex hstop _ ih =>
      rw [writeRemaining, Cursor.next?_of_lexeme hgap hlex hstop, pieces, List.flatMap_cons,
        Writer.writeAll_append]
      dsimp only
      obtain ⟨refused, out⟩ := Writer.writeAll [Token.render color _, ['\n']] out
      cases refused with
      | none => exact ih _ out
      | some cause => rfl

/-- A dump token by token is the dump of the source. -/
theorem writeRemaining_ofText (color : Bool) (source : Text) (out : ω) :
    writeRemaining color ⟨0, []⟩ (.ofText source) out = write color source out := by
  rw [Cursor.ofText_eq_before, writeRemaining_of_scanned (scanned_scanFrom 0 source),
    write_eq_conclude, foldl_add]
  simp only [Nat.zero_add, List.nil_append]
  rfl

/-! ## Byte by byte -/

/-- The bytes of a dump: those that a sink without a bound holds after it. -/
def bytes (color : Bool) (source : Text) : List UInt8 :=
  (write color source Sink.unbounded).2.contents

lemma bytes_eq_encode (color : Bool) (source : Text) :
    bytes color source = (text color source).encode :=
  contents_write (Sink.accepts_iff.mpr rfl) color source

/-- **A dump to a sink with a bound.**  Either all of it fits, or the sink is filled up with it. -/
theorem write_bounded (color : Bool) (source : Text) (limit : Nat) (refusal : SystemError) :
    write color source (Sink.bounded limit refusal) =
      if (bytes color source).length ≤ limit then
        (.ok (.ofTokens (scan source)),
          ⟨(bytes color source).toArray, some (limit - (bytes color source).length), refusal⟩)
      else (.error refusal, ⟨((bytes color source).take limit).toArray, some 0, refusal⟩) := by
  rw [write_eq_conclude, Sink.writeAll_eq, bytes_eq_encode, text]
  generalize encode (pieces color (scan source)).flatten = all
  simp only [Sink.bounded, Sink.writeBytes]
  by_cases hfits : all.length ≤ limit <;> simp [hfits, conclude]

end Dump

/-- **Dumps to a sink that fills up.**  With room for `limit` bytes in all, there is a summary
    exactly if the whole dump has no more bytes.  Then the summary is the one that there is without
    a bound, and the sink holds the whole dump.  Otherwise the cause is that of the sink, and it
    holds the first `limit` bytes.  To any destination, this is what writing token after token comes
    to, where nothing is read after the first refusal. -/
theorem dump_to_bounded_sink (color : Bool) (source : Text) (limit : Nat) (refusal : SystemError) :
    ((∃ summary, (Dump.write color source (Sink.bounded limit refusal)).1 = .ok summary) ↔
        (Dump.bytes color source).length ≤ limit) ∧
      ((Dump.bytes color source).length ≤ limit →
        (Dump.write color source (Sink.bounded limit refusal)).1 =
            (Dump.write color source Sink.unbounded).1 ∧
          (Dump.write color source (Sink.bounded limit refusal)).2.contents =
            Dump.bytes color source) ∧
      (limit < (Dump.bytes color source).length →
        (Dump.write color source (Sink.bounded limit refusal)).1 = .error refusal ∧
          (Dump.write color source (Sink.bounded limit refusal)).2.contents =
            (Dump.bytes color source).take limit) ∧
      ∀ (ω : Type) [Writer ω] (out : ω),
        Dump.writeRemaining color ⟨0, []⟩ (.ofText source) out = Dump.write color source out := by
  have hfull : (Dump.write color source Sink.unbounded).1 = .ok (.ofTokens (scan source)) :=
    Dump.write_of_accepts (Sink.accepts_iff.mpr rfl) color source
  rw [Dump.write_bounded, hfull]
  refine ⟨?_, fun h => ?_, fun h => ?_, fun ω _ out => Dump.writeRemaining_ofText color source out⟩
  · by_cases h : (Dump.bytes color source).length ≤ limit <;> simp [h]
  · rw [if_pos h]
    exact ⟨rfl, rfl⟩
  · rw [if_neg (Nat.not_le_of_lt h)]
    exact ⟨rfl, rfl⟩

/-- The plain dump of `λ` has 26 bytes.  With room for 26 it fits, with room for 25 the line feed is
    missing, and with room for 23 its one character is cut in two.  A dump of nothing needs no
    room. -/
theorem dump_to_bounded_sink_letter :
    (Dump.bytes false ['λ']).length = 26 ∧
      (Dump.write false ['λ'] (Sink.bounded 26 (.os .noSpace))).2.contents =
        Dump.bytes false ['λ'] ∧
      (Dump.write false ['λ'] (Sink.bounded 25 (.os .noSpace))).1 = .error (.os .noSpace) ∧
      (Dump.write false ['λ'] (Sink.bounded 23 (.os .noSpace))).2.contents =
        Text.encode "\x7bType:ILLEGAL Literal:".toList ++ [206] ∧
      ∃ summary, (Dump.write true ['\n'] (Sink.bounded 0 (.os .noSpace))).1 = .ok summary := by
  have hbytes : Dump.bytes false ['λ'] =
      Text.encode "\x7bType:ILLEGAL Literal:".toList ++ [206, 187, 125, 10] := by
    rw [Dump.bytes_eq_encode]
    decide +kernel
  have hlen : (Dump.bytes false ['λ']).length = 26 := by
    rw [hbytes]
    rfl
  obtain ⟨-, hfits, -⟩ := dump_to_bounded_sink false ['λ'] 26 (.os .noSpace)
  obtain ⟨-, -, hnewline, -⟩ := dump_to_bounded_sink false ['λ'] 25 (.os .noSpace)
  obtain ⟨-, -, hletter, -⟩ := dump_to_bounded_sink false ['λ'] 23 (.os .noSpace)
  obtain ⟨hnothing, -⟩ := dump_to_bounded_sink true ['\n'] 0 (.os .noSpace)
  refine ⟨hlen, (hfits (by omega)).2, (hnewline (by omega)).1, ?_, hnothing.mpr ?_⟩
  · rw [(hletter (by omega)).2, hbytes]
    rfl
  · rw [Dump.bytes_eq_encode]
    decide +kernel

end MonkeyTokens
