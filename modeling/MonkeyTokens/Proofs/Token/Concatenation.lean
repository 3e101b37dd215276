import MonkeyTokens.Proofs.Token.Stream
import Mathlib.Data.List.Basic

/-!
# The tokens of two texts in a row

One character of lookahead and no way back: where a token of `a` ends, it ends in `a ++ b` as well,
except for the last one when nothing stands between it and `b`.

* `Sticky a b` — the last token of `a` reaches the end of `a` and grows with the first character
  of `b`;
* `Scanned.shift` — a derivation further on in a source;
* `Scanned.append`, `Scanned.append_of_grows` — a derivation for `a`, continued with `b`;
* **`tokens_append_iff`** — the tokens of `a ++ b` are those of `a` and then those of `b` exactly
  when `a` and `b` are not sticky, and otherwise only the last token of `a` changes: it gets longer.
-/

namespace MonkeyTokens

open Grammar Text

/-- The text ends with the last of its tokens, and not with a space. -/
def EndsWith (a : Text) (ts : List Token) (t : Token) : Prop :=
  (∃ c ∈ a.getLast?, ¬ Spacing c) ∧ t ∈ ts.getLast?

/-- The last token of `a` goes on in `b`. -/
def Sticky (a b : Text) : Prop :=
  ∃ t, EndsWith a (Cursor.tokens a) t ∧ ∃ d ∈ b.head?, Grows t.kind d

/-! ## Further on in a source -/

lemma Scanned.shift {n : Nat} {s : Text} {ts : List Token} (h : Scanned n s ts) (m : Nat) :
    Scanned (m + n) s (ts.map (Token.shift m)) := by
  induction h with
  | done hgap => exact .done hgap
  | token hgap hlex hstop _ ih =>
      rw [← Nat.add_assoc, ← Nat.add_assoc] at ih
      have hstep := Scanned.token hgap hlex hstop ih
      simpa [Token.shift, Span.shift, Nat.add_assoc] using hstep

/-! ## The last token -/

lemma Scanned.eq_nil {n : Nat} {ts : List Token} (h : Scanned n [] ts) : ts = [] := by
  rw [← h.scanFrom_eq, scanFrom_nil]

/-- A lexeme at the end of a text is what the text ends with. -/
lemma endsWith_lexeme {gap text : Text} {k : Kind} {sp : Span} {u : Token}
    (hlex : Lexeme k text) :
    EndsWith (gap ++ (text ++ [])) [⟨k, text, sp⟩] u ↔ u = ⟨k, text, sp⟩ := by
  constructor
  · rintro ⟨-, hu⟩
    simpa using hu.symm
  · rintro rfl
    have hne := hlex.ne_nil
    have hlast : (gap ++ (text ++ [])).getLast? = some (text.getLast hne) := by
      rw [List.append_nil, List.getLast?_append_of_ne_nil _ hne, List.getLast?_eq_some_getLast hne]
    exact ⟨⟨text.getLast hne, hlast, hlex.not_spacing _ (List.getLast_mem hne)⟩, rfl⟩

/-- What a text ends with is what its rest ends with. -/
lemma endsWith_cons {n : Nat} {gap text rest : Text} {t u : Token} {ts : List Token}
    (hrest : Scanned n rest ts) (hne : rest ≠ []) :
    EndsWith (gap ++ (text ++ rest)) (t :: ts) u ↔ EndsWith rest ts u := by
  have hlast : (gap ++ (text ++ rest)).getLast? = rest.getLast? := by
    rw [List.getLast?_append_of_ne_nil _ (by simp [hne]), List.getLast?_append_of_ne_nil _ hne]
  rw [EndsWith, EndsWith, hlast]
  cases hrest with
  | done hgap =>
      -- only spaces are left, so neither text ends with a token
      have hspace : ¬ ∃ c ∈ rest.getLast?, ¬ Spacing c := by
        rintro ⟨c, hc, hno⟩
        exact hno (hgap c (List.mem_of_getLast? hc))
      simp only [hspace, false_and]
  | token => rw [List.getLast?_cons_cons]

/-! ## Continuing a derivation -/

/-- What stops in front of a text that is not empty stops in front of its continuations. -/
lemma stops_append {k : Kind} {rest : Text} (h : Stops k rest) (hne : rest ≠ []) (b : Text) :
    Stops k (rest ++ b) := by
  intro d hd
  obtain ⟨c, r, rfl⟩ := List.exists_cons_of_ne_nil hne
  exact h d hd

/-- Where the last token does not grow, the tokens of `a` stay and those of `b` follow. -/
theorem Scanned.append {n : Nat} {a b : Text} {ts us : List Token} (ha : Scanned n a ts)
    (hfree : ∀ t, EndsWith a ts t → Stops t.kind b) (hb : Scanned (n + byteLength a) b us) :
    Scanned n (a ++ b) (ts ++ us) := by
  induction ha with
  | done hgap => exact Scanned.gap_append hgap hb
  | @token n gap text rest k ts hgap hlex hstop hrest ih =>
      simp only [byteLength_append, ← Nat.add_assoc] at hb
      have hstop' : Stops k (rest ++ b) := by
        by_cases hne : rest = []
        · subst hne
          obtain rfl := hrest.eq_nil
          exact hfree _ ((endsWith_lexeme hlex).mpr rfl)
        · exact stops_append hstop hne b
      have hfree' : ∀ t, EndsWith rest ts t → Stops t.kind b := by
        intro t ht
        by_cases hne : rest = []
        · obtain ⟨⟨c, hc, -⟩, -⟩ := ht
          simp [hne] at hc
        · exact hfree t ((endsWith_cons hrest hne).mpr ht)
      rw [List.append_assoc, List.append_assoc]
      exact .token hgap hlex hstop' (ih hfree' hb)

/-- Where the last token grows, only that token changes: it gets longer. -/
theorem Scanned.append_of_grows {n : Nat} {a b : Text} {ts : List Token} {t : Token} {d : Char}
    (ha : Scanned n a ts) (ht : EndsWith a ts t) (hd : Grows t.kind d) :
    ∃ init u more, ts = init ++ [t] ∧ Scanned n (a ++ d :: b) (init ++ u :: more) ∧
      u.span.start = t.span.start ∧ t.span.stop < u.span.stop := by
  induction ha with
  | done => simp [EndsWith] at ht
  | @token n gap text rest k ts hgap hlex hstop hrest ih =>
      by_cases hne : rest = []
      · subst hne
        obtain rfl := hrest.eq_nil
        obtain rfl := (endsWith_lexeme hlex).mp ht
        obtain ⟨j, more, r, rfl, hlonger, hstop'⟩ := hlex.exists_longer hd b
        have hstep : Scanned n _ _ := .token hgap hlonger hstop' (scanned_scanFrom _ r)
        have hsource : gap ++ (text ++ []) ++ d :: (more ++ r) =
            gap ++ (text ++ d :: more ++ r) := by simp
        rw [← hsource] at hstep
        have hpos := d.utf8Size_pos
        have hlt : n + byteLength gap + byteLength text <
            n + byteLength gap + byteLength (text ++ d :: more) := by
          simp only [byteLength_cons, byteLength_append]
          omega
        exact ⟨[], _, _, rfl, hstep, rfl, hlt⟩
      · obtain ⟨init, u, more, rfl, hnext, hspan⟩ := ih ((endsWith_cons hrest hne).mp ht)
        refine ⟨_ :: init, u, more, rfl, ?_, hspan⟩
        rw [List.append_assoc, List.append_assoc]
        exact .token hgap hlex (stops_append hstop hne _) hnext

/-! ## The law -/

/-- **Concatenation.**  The tokens of `a ++ b` are those of `a` and then those of `b`, unless the
    last token of `a` grows with the first character of `b`.  Then all tokens of `a` but the last
    stay, and one follows that starts where the last did and ends later. -/
theorem tokens_append_iff (a b : Text) :
    (Cursor.tokens (a ++ b) =
        Cursor.tokens a ++ (Cursor.tokens b).map (Token.shift (byteLength a)) ↔ ¬ Sticky a b) ∧
      (Sticky a b → ∃ init t u more,
        Cursor.tokens a = init ++ [t] ∧ Cursor.tokens (a ++ b) = init ++ u :: more ∧
        u.span.start = t.span.start ∧ t.span.stop < u.span.stop) := by
  have ha := Cursor.scanned_tokens a
  have hgrows : Sticky a b → ∃ init t u more,
      Cursor.tokens a = init ++ [t] ∧ Cursor.tokens (a ++ b) = init ++ u :: more ∧
      u.span.start = t.span.start ∧ t.span.stop < u.span.stop := by
    rintro ⟨t, ht, d, hd, hdgrows⟩
    obtain ⟨r, rfl⟩ := List.head?_eq_some_iff.mp hd
    obtain ⟨init, u, more, hinit, hderived, hspan⟩ := ha.append_of_grows (b := r) ht hdgrows
    refine ⟨init, t, u, more, hinit, ?_, hspan⟩
    rw [Cursor.tokens_eq_scan]
    exact hderived.scanFrom_eq
  refine ⟨⟨?_, ?_⟩, hgrows⟩
  · intro heq hsticky
    obtain ⟨init, t, u, more, hinit, hmore, -, hlt⟩ := hgrows hsticky
    rw [heq, hinit, List.append_assoc] at hmore
    obtain rfl : t = u := (List.cons.inj (List.append_cancel_left hmore)).1
    exact Nat.lt_irrefl _ hlt
  · intro hfree
    have hstops : ∀ t, EndsWith a (Cursor.tokens a) t → Stops t.kind b :=
      fun t ht d hd hdgrows => hfree ⟨t, ht, d, hd, hdgrows⟩
    have hb := (Cursor.scanned_tokens b).shift (byteLength a)
    rw [Cursor.tokens_eq_scan]
    exact (ha.append hstops (by rwa [Nat.zero_add])).scanFrom_eq

/-- `x =` and `=y` stick: the `=` at the end becomes `==`, and nothing before it changes. -/
theorem tokens_append_iff_equal :
    Sticky "x =".toList "=y".toList ∧
      ∃ init t u more, Cursor.tokens "x =".toList = init ++ [t] ∧
        Cursor.tokens ("x =".toList ++ "=y".toList) = init ++ u :: more ∧
        u.span.start = t.span.start ∧ t.span.stop < u.span.stop :=
  have hsticky : Sticky "x =".toList "=y".toList :=
    ⟨⟨.operator .assign, ['='], ⟨2, 3⟩⟩, ⟨⟨'=', by decide, by decide⟩, by decide +kernel⟩, '=',
      by decide, rfl⟩
  ⟨hsticky, (tokens_append_iff _ _).2 hsticky⟩

end MonkeyTokens
