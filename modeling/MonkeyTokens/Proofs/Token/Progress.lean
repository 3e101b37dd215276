import MonkeyTokens.Proofs.Token.SourceCursor
import Mathlib.Algebra.Order.BigOperators.Group.List

/-!
# A cursor moves forward and ends

Where a cursor can get to by calls of `nextToken`, what each call does to its place, and how many
calls there are until the end.

* `Sound` — the three fields of a cursor fit each other and the source;
* `Forward` — a call finds the end exactly when only a gap is left, and stays there for ever; any
  other call moves on;
* `Cursor.Standing.sound`, `Cursor.Standing.forward` — both hold wherever a cursor can stand;
* **`cursor_invariant`** — they hold after any number of calls, no cut of the source fails on the
  way, and the end comes after as many calls as there are characters that are no spaces, or fewer.
-/

namespace MonkeyTokens

open Grammar Text

/-- The place of the cursor, the place after it and the current character fit each other and the
    source. -/
structure Sound (source : Text) (c : Cursor) : Prop where
  ordered : c.position ≤ c.readPosition ∧ c.readPosition ≤ byteLength source
  boundary : IsBoundary source c.position ∧ IsBoundary source c.readPosition
  /-- The current character is the first one from the place on. -/
  current : ∃ rest, source.dropBytes? c.position = some rest ∧ c.current = rest.head?
  ended : c.current = none ↔ c.position = byteLength source
  width : c.readPosition = c.position + (c.current.map Char.utf8Size).getD 0

/-- What a call does to the place of the cursor. -/
structure Forward (source : Text) (c : Cursor) : Prop where
  /-- The end is found exactly when only a gap is left. -/
  eof_iff : c.nextToken.1.isEof = true ↔
    ∃ rest, source.dropBytes? c.position = some rest ∧ Gap rest
  /-- It is found at the end of the source, and every further call finds it and changes nothing. -/
  eof : c.nextToken.1.isEof = true →
    c.nextToken.1 = ⟨.eof, [], ⟨byteLength source, byteLength source⟩⟩ ∧
      c.nextToken.2.position = byteLength source ∧
      ∀ j, (c.nextToken.2.after j) = c.nextToken.2 ∧
        (c.nextToken.2.after j).nextToken = c.nextToken
  /-- Any other call moves on. -/
  moves : c.nextToken.1.isEof = false → c.position < c.nextToken.2.position

/-! ## At one place -/

namespace Cursor

variable {source : Text} {c : Cursor}

lemma Standing.sound (h : Standing source c) : Sound source c := by
  obtain ⟨past, rest, rfl, rfl⟩ := h
  cases rest with
  | nil =>
      simp only [List.append_nil]
      exact
        { ordered := ⟨Nat.le_refl _, Nat.le_refl _⟩
          boundary := ⟨⟨past, [], by simp, rfl⟩, ⟨past, [], by simp, rfl⟩⟩
          current := ⟨[], dropBytes?_eq_some_iff.mpr ⟨past, by simp, rfl⟩, rfl⟩
          ended := ⟨fun _ => rfl, fun _ => rfl⟩
          width := rfl }
  | cons ch rest =>
      have hch := ch.utf8Size_pos
      have hstop : byteLength (past ++ [ch]) = byteLength past + ch.utf8Size := by simp
      refine
        { ordered := ⟨Nat.le_add_right _ _, ?_⟩
          boundary := ⟨⟨past, ch :: rest, rfl, rfl⟩, ⟨past ++ [ch], rest, by simp, hstop⟩⟩
          current := ⟨ch :: rest, dropBytes?_append past _, rfl⟩
          ended := ?_
          width := rfl }
      · rw [byteLength_append, byteLength_cons]
        show byteLength past + ch.utf8Size ≤ _
        omega
      · rw [byteLength_append, byteLength_cons, position_before, current_before]
        simp only [List.head?_cons, reduceCtorEq, false_iff]
        omega

/-- A call at the end of a source changes nothing, and so do all after it. -/
lemma after_end (n j : Nat) : (before n []).after j = before n [] := by
  have hcall : (before n []).nextToken = (.endOfInput n, before n []) :=
    nextToken_of_gap (by simp [Gap]) n
  induction j with
  | zero => rfl
  | succ j ih => rw [after, hcall, ih]

lemma Standing.forward (h : Standing source c) : Forward source c := by
  obtain ⟨past, rest, rfl, rfl⟩ := h
  have hdrop : (past ++ rest).dropBytes? (before (byteLength past) rest).position = some rest := by
    rw [position_before]
    exact dropBytes?_append past rest
  have hscan := scanned_scanFrom (byteLength past) rest
  generalize scanFrom (byteLength past) rest = ts at hscan
  cases hscan with
  | done hgap =>
      have hcall := nextToken_of_gap hgap (byteLength past)
      have hend : (before (byteLength past + byteLength rest) []).nextToken =
          (.endOfInput (byteLength past + byteLength rest), before _ []) :=
        nextToken_of_gap (by simp [Gap]) _
      rw [← byteLength_append] at hcall hend
      refine ⟨?_, fun _ => ?_, fun hne => ?_⟩
      · rw [hcall]
        exact ⟨fun _ => ⟨rest, hdrop, hgap⟩, fun _ => rfl⟩
      · rw [hcall]
        refine ⟨rfl, position_before _ _, fun j => ?_⟩
        rw [after_end, hend]
        exact ⟨rfl, rfl⟩
      · simp [hcall, Token.endOfInput, Token.isEof] at hne
  | @token _ gap text rest k ts hgap hlex hstop _ =>
      have hcall := nextToken_of_lexeme hgap hlex hstop (byteLength past)
      have hne : (before (byteLength past) (gap ++ (text ++ rest))).nextToken.1.isEof = false := by
        rw [hcall]
        simp [Token.isEof, hlex.ne_eof]
      refine ⟨?_, fun he => by simp [hne] at he, fun _ => ?_⟩
      · rw [hne, hdrop]
        simp only [Bool.false_eq_true, Option.some.injEq, false_iff]
        rintro ⟨r, rfl, hall⟩
        obtain ⟨d, u, rfl, -⟩ := hlex.exists_shape
        exact hlex.not_spacing d (by simp) (hall d (by simp))
      · rw [hcall]
        simp only [position_before]
        have hpos := byteLength_pos hlex.ne_nil
        omega

/-! ## After any number of calls -/

lemma Standing.after (h : Standing source c) (i : Nat) : Standing source (c.after i) := by
  induction i generalizing c with
  | zero => exact h
  | succ i ih => exact ih h.nextToken

/-- A source has no more tokens than characters that are no spaces. -/
lemma length_tokens_le (source : Text) :
    (tokens source).length ≤ (source.filter fun c => ¬ Spacing c).length := by
  have hscan := scanned_tokens source
  have hone : ∀ n ∈ (tokens source).map fun t => t.text.length, 1 ≤ n := by
    rintro n hn
    obtain ⟨t, ht, rfl⟩ := List.mem_map.mp hn
    exact List.length_pos_iff.mpr (hscan.lexeme t ht).ne_nil
  have hsum := List.length_le_sum_of_one_le _ hone
  rw [← hscan.flatten_texts, List.length_flatten, List.map_map]
  rwa [List.length_map] at hsum

end Cursor

/-- **The invariant of a cursor.**  After any number of calls its fields fit each other and the
    source, the next call makes no failing cut in the source, and it moves on or finds the end for
    good.  The end is found by the call after as many as there are characters that are no spaces,
    if not before. -/
theorem cursor_invariant (source : Text) :
    SourceCursor.ofText source = .ok ((Cursor.ofText source).inSource source) ∧
      (∀ i, let c := (Cursor.ofText source).after i
        Sound source c ∧ Forward source c ∧
          (c.inSource source).nextToken = .ok (c.nextToken.1, c.nextToken.2.inSource source)) ∧
      ∃ i ≤ (source.filter fun c => ¬ Spacing c).length,
        (Cursor.answer source i).isEof = true := by
  refine ⟨Cursor.ofText_inSource source, fun i => ?_, ?_⟩
  · have hstand := (Cursor.standing_ofText source).after i
    exact ⟨hstand.sound, hstand.forward, hstand.nextToken_inSource⟩
  · refine ⟨(Cursor.tokens source).length, Cursor.length_tokens_le source, ?_⟩
    rw [Cursor.answer_eq, List.getElem?_eq_none (Nat.le_refl _)]
    rfl

/-- A NUL character is an illegal character like any other: it does not end the input. -/
example : (Cursor.answer ['\x00', 'x'] 0).isEof = false ∧
    (Cursor.answer ['\x00', 'x'] 2).isEof = true := by
  decide +kernel

end MonkeyTokens
