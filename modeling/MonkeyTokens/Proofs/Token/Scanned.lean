import MonkeyTokens.Proofs.Token.Munch

/-!
# Scanning as a derivation

`Scanned n source tokens` derives the tokens of a piece of source that starts at byte offset `n`:
a gap, then a lexeme that what follows does not grow, then the tokens of what follows.  It says
what one step of a scan does, once, and every statement about a whole scan is an induction on it.

* `scanFrom_gap`, `scanFrom_lexeme` — what the scan does at a gap and at a lexeme;
* **`scanned_scanFrom`**, **`Scanned.scanFrom_eq`** — the scan gives the tokens that can be
  derived, and no others.
-/

namespace MonkeyTokens

open Grammar Text

/-- The tokens of a piece of source at byte offset `n`. -/
inductive Scanned : Nat → Text → List Token → Prop
  | done {n : Nat} {gap : Text} : Gap gap → Scanned n gap []
  | token {n : Nat} {gap text rest : Text} {k : Kind} {tokens : List Token} :
      Gap gap → Lexeme k text → Stops k rest →
      Scanned (n + byteLength gap + byteLength text) rest tokens →
      Scanned n (gap ++ (text ++ rest))
        (⟨k, text, ⟨n + byteLength gap, n + byteLength gap + byteLength text⟩⟩ :: tokens)

/-! ## One step of the scan -/

lemma scanFrom_nil (n : Nat) : scanFrom n [] = [] := by
  rw [scanFrom]

/-- A gap only moves the offset. -/
lemma scanFrom_gap {gap : Text} (hgap : Gap gap) (n : Nat) (rest : Text) :
    scanFrom n (gap ++ rest) = scanFrom (n + byteLength gap) rest := by
  induction gap generalizing n with
  | nil => rfl
  | cons c cs ih =>
      have hc : isGap c = true := isGap_iff.mpr (hgap c (by simp))
      have hcs : Gap cs := fun d hd => hgap d (by simp [hd])
      rw [List.cons_append, scanFrom, if_pos hc, ih hcs, byteLength_cons, Nat.add_assoc]

/-- A lexeme that does not grow is the next token. -/
lemma scanFrom_lexeme {k : Kind} {text rest : Text} (h : Lexeme k text) (hs : Stops k rest)
    (n : Nat) :
    scanFrom n (text ++ rest) =
      ⟨k, text, ⟨n, n + byteLength text⟩⟩ :: scanFrom (n + byteLength text) rest := by
  obtain ⟨c, t, rfl, -⟩ := h.exists_shape
  have hc : ¬ isGap c = true := fun hgap => h.not_spacing c (by simp) (isGap_iff.mp hgap)
  rw [List.cons_append, scanFrom, if_neg hc, munch_of_stops h hs]
  simp only [List.drop_left]

/-! ## The whole scan -/

lemma Grammar.Gap.append {a b : Text} (ha : Gap a) (hb : Gap b) : Gap (a ++ b) := by
  intro c hc
  rcases List.mem_append.mp hc with hc | hc
  · exact ha c hc
  · exact hb c hc

/-- A gap in front belongs to the first gap. -/
lemma Scanned.gap_append {n : Nat} {gap s : Text} {tokens : List Token} (hgap : Gap gap)
    (h : Scanned (n + byteLength gap) s tokens) : Scanned n (gap ++ s) tokens := by
  cases h with
  | done hgap' => exact .done (hgap.append hgap')
  | @token _ gap' text rest k tokens hgap' hlex hstop hrest =>
      have hpos : n + byteLength gap + byteLength gap' = n + byteLength (gap ++ gap') := by
        rw [byteLength_append, Nat.add_assoc]
      rw [hpos] at hrest ⊢
      rw [← List.append_assoc]
      exact .token (hgap.append hgap') hlex hstop hrest

/-- **What the scan gives** can be derived. -/
theorem scanned_scanFrom (n : Nat) (s : Text) : Scanned n s (scanFrom n s) := by
  fun_induction scanFrom n s with
  | case1 n => exact .done (by simp [Gap])
  | case2 n c rest hgap ih =>
      have hone : Gap [c] := by simpa [Gap] using isGap_iff.mp hgap
      exact Scanned.gap_append hone ih
  | case3 n c rest hgap kind tail hm stop ih =>
      have hc : ¬ Spacing c := fun h => hgap (isGap_iff.mpr h)
      obtain ⟨k, t, rest', rfl, hread, hlex, hstop⟩ := exists_munch hc rest
      obtain ⟨rfl, rfl⟩ : k = kind ∧ t = tail := by simpa [hread] using hm
      rw [List.drop_left] at ih ⊢
      have hnil : Gap [] := by simp [Gap]
      exact .token hnil hlex hstop ih

/-- **What can be derived** is what the scan gives. -/
theorem Scanned.scanFrom_eq {n : Nat} {s : Text} {tokens : List Token} (h : Scanned n s tokens) :
    scanFrom n s = tokens := by
  induction h with
  | @done n gap hgap =>
      rw [← List.append_nil gap, scanFrom_gap hgap, scanFrom_nil]
  | token hgap hlex hstop _ ih =>
      rw [scanFrom_gap hgap, scanFrom_lexeme hlex hstop, ih]

/-! ## Where the tokens stand -/

/-- **Each token of a derivation** is a lexeme at its place in the source, which what follows does
    not grow.  What was passed before the derivation is carried along as `past`. -/
theorem Scanned.exists_split {n : Nat} {s : Text} {ts : List Token} (h : Scanned n s ts) :
    ∀ past, byteLength past = n → ∀ t ∈ ts, ∃ a rest,
      past ++ s = a ++ (t.text ++ rest) ∧ byteLength a = t.span.start ∧
      byteLength a + byteLength t.text = t.span.stop ∧
      Lexeme t.kind t.text ∧ Stops t.kind rest := by
  induction h with
  | done => simp
  | @token n gap text rest k ts _ hlex hstop _ ih =>
      rintro past rfl t ht
      rcases List.mem_cons.mp ht with rfl | ht
      · exact ⟨past ++ gap, rest, by simp, by simp, by simp, hlex, hstop⟩
      · obtain ⟨a, r, hsplit, hspan⟩ :=
          ih (past ++ gap ++ text) (by simp only [byteLength_append]) t ht
        exact ⟨a, r, by rw [← hsplit]; simp, hspan⟩

lemma Scanned.lexeme {n : Nat} {s : Text} {ts : List Token} (h : Scanned n s ts) :
    ∀ t ∈ ts, Lexeme t.kind t.text := by
  induction h with
  | done => simp
  | token _ hlex _ _ ih => exact List.forall_mem_cons.mpr ⟨hlex, ih⟩

/-- The texts of a derivation are what is scanned, without spaces. -/
lemma Scanned.flatten_texts {n : Nat} {s : Text} {ts : List Token} (h : Scanned n s ts) :
    (ts.map Token.text).flatten = s.filter fun c => ¬ Spacing c := by
  have hdrop : ∀ {gap : Text}, Gap gap → (gap.filter fun c => ¬ Spacing c) = [] := by
    intro gap hgap
    simpa [Gap, List.filter_eq_nil_iff] using hgap
  induction h with
  | done hgap => simpa using (hdrop hgap).symm
  | @token n gap text rest k ts hgap hlex _ _ ih =>
      have hkeep : (text.filter fun c => ¬ Spacing c) = text := by
        simpa [List.filter_eq_self] using hlex.not_spacing
      rw [List.filter_append, List.filter_append, hdrop hgap, hkeep, List.map_cons,
        List.flatten_cons, ih, List.nil_append]

end MonkeyTokens
