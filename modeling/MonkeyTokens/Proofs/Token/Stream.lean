import MonkeyTokens.Token.Cursor
import MonkeyTokens.Proofs.Token.Scanned

/-!
# What a cursor answers

A cursor that is asked for token after token answers with the tokens of the scan, and then with
the end of the input for ever.

* `Cursor.before n rest` — the cursor at byte offset `n` with `rest` still ahead; every cursor that
  is reached from the start of a source has this form;
* `Cursor.readLexeme_before` — reading with the cursor is `munch`;
* `Cursor.nextToken_of_gap`, `Cursor.nextToken_of_lexeme` — one call, at the end and at a lexeme;
* `Cursor.tokens`, `Cursor.answer` — the tokens before the end, and what each call answers;
* **`Cursor.tokens_eq_scan`**, **`Cursor.answer_eq`** — both are the scan.
-/

namespace MonkeyTokens

open Grammar Text

namespace Cursor

/-- The cursor at byte offset `n` in front of `rest`. -/
def before (n : Nat) : Text → Cursor
  | [] => ⟨n, n, none, []⟩
  | c :: rest => ⟨n, n + c.utf8Size, some c, rest⟩

/-- The tokens of a source before the end of the input, as a cursor gives them. -/
def tokens (source : Text) : List Token :=
  (ofText source).remaining.1

/-- The cursor after `i` calls of `nextToken`. -/
def after : Nat → Cursor → Cursor
  | 0, c => c
  | i + 1, c => after i c.nextToken.2

/-- What `nextToken` answers on a source when it was called `i` times before. -/
def answer (source : Text) (i : Nat) : Token :=
  ((ofText source).after i).nextToken.1

/-! ## Moving forward -/

lemma ofText_eq_before (source : Text) : ofText source = before 0 source := by
  cases source <;> rfl

lemma advance_before (n : Nat) (c : Char) (rest : Text) :
    (before n (c :: rest)).advance = before (n + c.utf8Size) rest := by
  cases rest <;> rfl

@[simp] lemma position_before (n : Nat) (t : Text) : (before n t).position = n := by
  cases t <;> rfl

@[simp] lemma current_before (n : Nat) (t : Text) : (before n t).current = t.head? := by
  cases t <;> rfl

lemma readWhile_before (p : Char → Bool) (n : Nat) (t : Text) :
    (before n t).readWhile p =
      (t.takeWhile p, before (n + byteLength (t.takeWhile p)) (t.drop (t.takeWhile p).length)) := by
  induction t generalizing n with
  | nil =>
      rw [readWhile]
      rfl
  | cons c cs ih =>
      rw [readWhile]
      change (if p c then _ else _) = _
      by_cases hc : p c = true
      · rw [if_pos hc, advance_before, ih, List.takeWhile_cons_of_pos hc, byteLength_cons,
          Nat.add_assoc]
        rfl
      · rw [if_neg hc, List.takeWhile_cons_of_neg hc]
        rfl

lemma readOne_before (wanted : Char) (n : Nat) (t : Text) :
    (before n t).readOne wanted =
      if t.head? = some wanted then ([wanted], before (n + wanted.utf8Size) t.tail)
      else ([], before n t) := by
  rw [readOne, current_before]
  split
  · next h =>
      obtain ⟨r, rfl⟩ := List.head?_eq_some_iff.mp h
      rw [advance_before, List.tail_cons]
  · rfl

/-- **Reading a lexeme with the cursor is `munch`.** -/
theorem readLexeme_before (c : Char) (n : Nat) (t : Text) :
    (before n t).readLexeme c =
      ((munch c t).1, (munch c t).2,
        before (n + byteLength (munch c t).2) (t.drop (munch c t).2.length)) := by
  unfold readLexeme munch
  split_ifs with h1 h2 h3 h4 h5 h6
  · simp [readOne_before, h2]
  · simp [readOne_before, h2]
  · simp [readOne_before, h4]
  · simp [readOne_before, h4]
  · simp [readWhile_before]
  · simp [readWhile_before]
  · simp

/-! ## One call -/

lemma skipGap_before {gap rest : Text} (hgap : Gap gap) (hrest : ∀ c ∈ rest.head?, ¬ Spacing c)
    (n : Nat) : (before n (gap ++ rest)).skipGap = before (n + byteLength gap) rest := by
  have hrun : (gap ++ rest).takeWhile isGap = gap :=
    takeWhile_append_of_stop (fun c hc => isGap_iff.mpr (hgap c hc))
      fun c hc h => hrest c hc (isGap_iff.mp h)
  rw [skipGap, readWhile_before, hrun, List.drop_left]

/-- Where only a gap is left, the answer is the end of the input. -/
theorem nextToken_of_gap {gap : Text} (hgap : Gap gap) (n : Nat) :
    (before n gap).nextToken =
      (.endOfInput (n + byteLength gap), before (n + byteLength gap) []) := by
  have hskip : (before n gap).skipGap = before (n + byteLength gap) [] := by
    rw [← List.append_nil gap, skipGap_before hgap (by simp), List.append_nil]
  rw [nextToken, hskip]
  rfl

/-- Where a lexeme follows a gap, the answer is its token. -/
theorem nextToken_of_lexeme {gap text rest : Text} {k : Kind} (hgap : Gap gap)
    (hlex : Lexeme k text) (hstop : Stops k rest) (n : Nat) :
    (before n (gap ++ (text ++ rest))).nextToken =
      (⟨k, text, ⟨n + byteLength gap, n + byteLength gap + byteLength text⟩⟩,
        before (n + byteLength gap + byteLength text) rest) := by
  obtain ⟨c, t, rfl, -⟩ := hlex.exists_shape
  have hc : ∀ d ∈ (c :: t ++ rest).head?, ¬ Spacing d := by
    rintro d ⟨⟩
    exact hlex.not_spacing c (by simp)
  have hcur : (before (n + byteLength gap) (c :: t ++ rest)).current = some c :=
    current_before _ _
  rw [nextToken, skipGap_before hgap hc, readToken, hcur]
  simp only [List.cons_append, advance_before, readLexeme_before, munch_of_stops hlex hstop,
    List.drop_left, position_before, byteLength_cons, Nat.add_assoc]

lemma next?_of_gap {gap : Text} (hgap : Gap gap) (n : Nat) :
    (before n gap).next? = (none, before (n + byteLength gap) []) := by
  rw [next?, nextToken_of_gap hgap]
  rfl

lemma next?_of_lexeme {gap text rest : Text} {k : Kind} (hgap : Gap gap) (hlex : Lexeme k text)
    (hstop : Stops k rest) (n : Nat) :
    (before n (gap ++ (text ++ rest))).next? =
      (some ⟨k, text, ⟨n + byteLength gap, n + byteLength gap + byteLength text⟩⟩,
        before (n + byteLength gap + byteLength text) rest) := by
  rw [next?, nextToken_of_lexeme hgap hlex hstop]
  simp [Token.isEof, hlex.ne_eof]

/-! ## All calls -/

/-- The tokens that can be derived are those that are left for the cursor, which ends up at the
    end of the source. -/
theorem remaining_of_scanned {n : Nat} {s : Text} {ts : List Token} (h : Scanned n s ts) :
    (before n s).remaining = (ts, before (n + byteLength s) []) := by
  induction h with
  | done hgap =>
      rw [remaining, next?_of_gap hgap]
  | token hgap hlex hstop _ ih =>
      rw [remaining, next?_of_lexeme hgap hlex hstop]
      simp only [ih]
      simp only [byteLength_append, Nat.add_assoc]

/-- **The tokens that a cursor gives are those of the scan.** -/
theorem tokens_eq_scan (source : Text) : tokens source = scan source := by
  rw [tokens, ofText_eq_before, remaining_of_scanned (scanned_scanFrom 0 source)]
  rfl

lemma scanned_tokens (source : Text) : Scanned 0 source (tokens source) := by
  rw [tokens_eq_scan]
  exact scanned_scanFrom 0 source

/-- At the end of a source every further call answers alike. -/
lemma nextToken_after_end (n i : Nat) :
    ((before n []).after i).nextToken.1 = .endOfInput n := by
  have hnil : Gap [] := by simp [Gap]
  have hcall : (before n []).nextToken = (.endOfInput n, before n []) := nextToken_of_gap hnil n
  induction i with
  | zero => rw [after, hcall]
  | succ i ih => rw [after, hcall, ih]

/-- The calls answer with the tokens that can be derived, and then with the end of the input. -/
theorem nextToken_after_of_scanned {n : Nat} {s : Text} {ts : List Token} (h : Scanned n s ts)
    (i : Nat) :
    ((before n s).after i).nextToken.1 = ts[i]?.getD (.endOfInput (n + byteLength s)) := by
  induction h generalizing i with
  | done hgap =>
      cases i with
      | zero => rw [after, nextToken_of_gap hgap, List.getElem?_nil, Option.getD_none]
      | succ i =>
          rw [after, nextToken_of_gap hgap, nextToken_after_end, List.getElem?_nil,
            Option.getD_none]
  | token hgap hlex hstop _ ih =>
      cases i with
      | zero => rw [after, nextToken_of_lexeme hgap hlex hstop, List.getElem?_cons_zero,
          Option.getD_some]
      | succ i =>
          rw [after, nextToken_of_lexeme hgap hlex hstop, ih i, List.getElem?_cons_succ]
          simp only [byteLength_append, Nat.add_assoc]

/-- **What each call answers.**  First the tokens of the source in order, then the end of the
    input again and again. -/
theorem answer_eq (source : Text) (i : Nat) :
    answer source i = (tokens source)[i]?.getD (.endOfInput (byteLength source)) := by
  rw [answer, ofText_eq_before, nextToken_after_of_scanned (scanned_tokens source), Nat.zero_add]

end Cursor

end MonkeyTokens
