import MonkeyTokens.Proofs.Token.Tiling

/-!
# Maximal munch

Which tokens a source has is settled by the grammar alone: they tile it, with gaps between them,
and each is the longest lexeme at its place.

* `Munched` — a token whose text is a lexeme of its kind, and no longer lexeme starts there;
* `Scanned.munched` — a derivation takes the longest lexeme at every step;
* `scanned_of_tiling` — a tiling by longest lexemes can be derived;
* **`maximal_munch`** — the scanner's tokens are the one such tiling of the source.

The two directions meet in the derivation: that what follows does not grow a lexeme is what the
scanner sees, that no longer lexeme starts there is what is wanted, and
`Grammar.Lexeme.stops_iff_longest` says that they are the same.
-/

namespace MonkeyTokens

open Grammar Text

/-- The token is the longest lexeme at its place in the source. -/
structure Munched (source : Text) (t : Token) : Prop where
  lexeme : Lexeme t.kind t.text
  longest : ∃ suffix, source.dropBytes? t.span.start = some suffix ∧ t.text <+: suffix ∧
    ∀ k p, Lexeme k p → p <+: suffix → p.length ≤ t.text.length

theorem Scanned.munched {n : Nat} {s : Text} {ts : List Token} (h : Scanned n s ts)
    (past : Text) (hpast : byteLength past = n) : ∀ t ∈ ts, Munched (past ++ s) t := by
  intro t ht
  obtain ⟨a, rest, hsplit, hstart, -, hlex, hstop⟩ := h.exists_split past hpast t ht
  refine ⟨hlex, t.text ++ rest, ?_, List.prefix_append t.text rest, hlex.stops_iff_longest.mp hstop⟩
  exact dropBytes?_eq_some_iff.mpr ⟨a, hsplit, hstart⟩

/-- What follows the longest lexeme at a place does not grow it. -/
lemma Munched.stops {a rest : Text} {t : Token} (h : Munched (a ++ (t.text ++ rest)) t)
    (ha : byteLength a = t.span.start) : Stops t.kind rest := by
  obtain ⟨suffix, hdrop, -, hlong⟩ := h.longest
  obtain ⟨b, hb, hlen⟩ := dropBytes?_eq_some_iff.mp hdrop
  obtain ⟨-, rfl⟩ := append_inj_of_byteLength hb (ha.trans hlen.symm)
  exact h.lexeme.stops_iff_longest.mpr hlong

/-- A tiling by longest lexemes can be derived. -/
theorem scanned_of_tiling {ts : List Token} {past s : Text}
    (htiling : Tiling (past ++ s) (byteLength past) ts) (hmunch : ∀ t ∈ ts, Munched (past ++ s) t) :
    Scanned (byteLength past) s ts := by
  induction ts generalizing past s with
  | nil => exact .done htiling.gap_of_nil
  | cons t us ih =>
      obtain ⟨g, rest, rfl, hgap, hstart, hstop, hrest⟩ := htiling.exists_of_cons
      have hall : past ++ (g ++ (t.text ++ rest)) = past ++ g ++ t.text ++ rest := by simp
      have hfirst : Munched (past ++ g ++ (t.text ++ rest)) t := by
        rw [List.append_assoc]
        exact hmunch t (by simp)
      have hnext : Scanned (byteLength (past ++ g ++ t.text)) rest us := by
        refine ih hrest fun u hu => ?_
        rw [← hall]
        exact hmunch u (by simp [hu])
      have hstops := hfirst.stops hstart.symm
      have hlex := hfirst.lexeme
      obtain ⟨k, text, ⟨i, j⟩⟩ := t
      simp only [byteLength_append] at hstart hstop hnext
      subst hstart hstop
      exact .token hgap hlex hstops hnext

/-- **Maximal munch.**  Every answer before the end of the input is the longest lexeme at its
    place, and a list of tokens is the scanner's exactly when it tiles the source with longest
    lexemes. -/
theorem maximal_munch (source : Text) :
    (∀ i, (Cursor.answer source i).isEof = false → Munched source (Cursor.answer source i)) ∧
      ∀ tokens, (Tiling source 0 tokens ∧ ∀ t ∈ tokens, Munched source t) ↔
        tokens = Cursor.tokens source := by
  have h := Cursor.scanned_tokens source
  refine ⟨fun i hi => ?_, fun tokens => ⟨?_, ?_⟩⟩
  · rw [Cursor.answer_eq] at hi ⊢
    cases hget : (Cursor.tokens source)[i]? with
    | none => simp [hget, Token.isEof, Token.endOfInput] at hi
    | some t => exact h.munched [] rfl t (List.mem_of_getElem? hget)
  · rintro ⟨htiling, hmunch⟩
    have hwhole : Tiling ([] ++ source) (byteLength []) tokens := htiling
    rw [Cursor.tokens_eq_scan]
    exact (scanned_of_tiling hwhole hmunch).scanFrom_eq.symm
  · rintro rfl
    exact ⟨h.tiling [] rfl, h.munched [] rfl⟩

/-- In `iff!==λ` the second answer is `!=`, no longer lexeme starts there, and the word, the two
    operators and the illegal character are the only tiling by longest lexemes. -/
theorem maximal_munch_iff_notEqual :
    (Cursor.answer "iff!==λ".toList 1).isEof = false ∧
      Munched "iff!==λ".toList (Cursor.answer "iff!==λ".toList 1) ∧
      Tiling "iff!==λ".toList 0
        [⟨.identifier, ['i', 'f', 'f'], ⟨0, 3⟩⟩, ⟨.operator .notEqual, ['!', '='], ⟨3, 5⟩⟩,
          ⟨.operator .assign, ['='], ⟨5, 6⟩⟩, ⟨.illegal, ['λ'], ⟨6, 8⟩⟩] :=
  have hanswer : (Cursor.answer "iff!==λ".toList 1).isEof = false := by decide +kernel
  ⟨hanswer, (maximal_munch _).1 1 hanswer, (((maximal_munch _).2 _).mpr (by decide +kernel)).1⟩

end MonkeyTokens
