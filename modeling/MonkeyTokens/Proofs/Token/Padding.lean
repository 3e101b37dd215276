import MonkeyTokens.Proofs.Text.Trim
import MonkeyTokens.Proofs.Token.Alphabet
import MonkeyTokens.Proofs.Token.Concatenation
import MonkeyTokens.Proofs.Token.Layout

/-!
# Blank characters around a source

There are two notions of a space.  The scanner passes over four characters, trimming removes all
that are blank in Unicode.  Between the two stand characters such as the no-break space: trimming
removes them, and the scanner takes each for an illegal token.

**No lexeme is stopped or made longer** by a blank character.  It is a space or outside the alphabet
(`inAlphabet_iff_of_blank`), so no lexeme grows with it (`not_grows_of_blank`), and the tokens of a
blank text are illegal ones (`scanned_of_blank`).

**`scan_pad`** puts the three derivations together: blank characters around a source add illegal
tokens before and after its own, and move these on.  **`scan_trim`** says so of a text and of what
is left of it when it is trimmed.
-/

namespace MonkeyTokens

open Grammar Text

/-! ## Blank characters and the alphabet -/

/-- The visible characters of ASCII are not blank. -/
lemma isBlank_of_visible {c : Char} (hlow : 0x20 < c.toNat) (hhigh : c.toNat < 0x7F) :
    isBlank c = false := by
  unfold isBlank
  simp only [Bool.or_eq_false_iff, Bool.and_eq_false_iff, decide_eq_false_iff_not,
    beq_eq_false_iff_ne]
  omega

/-- The alphabet is spaces and visible characters of ASCII. -/
lemma visible_of_inAlphabet {c : Char} (h : InAlphabet c) (hspace : ¬ Spacing c) :
    0x20 < c.toNat ∧ c.toNat < 0x7F := by
  have hrange : ∀ {a b : Char}, a ≤ c → c ≤ b → a.toNat ≤ c.toNat ∧ c.toNat ≤ b.toNat :=
    fun ha hb => ⟨UInt32.le_iff_toNat_le.mp ha, UInt32.le_iff_toNat_le.mp hb⟩
  rcases h with h | (⟨hA, hZ⟩ | ⟨ha, hz⟩) | ⟨h0, h9⟩ | rfl | h
  · exact absurd h hspace
  · have hletter := hrange hA hZ
    have hbounds : 'A'.toNat = 65 ∧ 'Z'.toNat = 90 := by decide
    omega
  · have hletter := hrange ha hz
    have hbounds : 'a'.toNat = 97 ∧ 'z'.toNat = 122 := by decide
    omega
  · have hdigit := hrange h0 h9
    have hbounds : '0'.toNat = 48 ∧ '9'.toNat = 57 := by decide
    omega
  · decide
  · have hall : ("+-*/<>=!,;(){}".toList.all fun d => 0x20 < d.toNat ∧ d.toNat < 0x7F) = true := by
      decide
    simpa using List.all_eq_true.mp hall c h

/-- **Of the blank characters** only the spaces of the scanner are in the alphabet. -/
lemma inAlphabet_iff_of_blank {c : Char} (h : isBlank c = true) : InAlphabet c ↔ Spacing c := by
  constructor
  · intro hc
    by_contra hspace
    obtain ⟨hlow, hhigh⟩ := visible_of_inAlphabet hc hspace
    rw [isBlank_of_visible hlow hhigh] at h
    cases h
  · exact .inl

lemma allInAlphabet_iff_of_blank {t : Text} (h : Blank t) : AllInAlphabet t ↔ Gap t :=
  forall₂_congr fun c hc => inAlphabet_iff_of_blank (h c hc)

/-- What a lexeme grows with is in the alphabet. -/
lemma inAlphabet_of_grows {k : Kind} {c : Char} (h : Grows k c) : InAlphabet c := by
  cases k with
  | identifier | keyword w => exact inAlphabet_of_namePart h
  | integer => exact inAlphabet_of_namePart (.inr h)
  | operator o =>
      cases o with
      | assign | bang =>
          obtain rfl : c = '=' := h
          decide
      | _ => exact h.elim
  | eof | illegal | separator s | bracket b => exact h.elim

/-- No lexeme grows with a blank character. -/
lemma not_grows_of_blank {k : Kind} {c : Char} (hc : isBlank c = true) : ¬ Grows k c := fun h =>
  not_grows_of_spacing ((inAlphabet_iff_of_blank hc).mp (inAlphabet_of_grows h)) h

lemma stops_of_blank {t : Text} (h : Blank t) (k : Kind) : Stops k t :=
  fun c hc => not_grows_of_blank (h c (List.mem_of_head? hc))

/-! ## The tokens of blank characters -/

/-- A character outside the alphabet is an illegal lexeme. -/
lemma lexeme_of_not_inAlphabet {c : Char} (h : ¬ InAlphabet c) : Lexeme .illegal [c] := by
  have hsymbol : c ∉ "+-*/<>=!,;(){}".toList := fun hc => h (.inr (.inr (.inr (.inr hc))))
  have hsub : "+-*/<>,;(){}".toList ⊆ "+-*/<>=!,;(){}".toList := by simp
  have hnone : Kind.ofCharacter? c = none :=
    ofCharacter?_eq_none_iff.mpr fun hc => hsymbol (hsub hc)
  have hshape : Shape ((Kind.ofCharacter? c).getD .illegal) c [] :=
    .single (by rintro rfl; exact hsymbol (by decide)) (by rintro rfl; exact hsymbol (by decide))
      (fun hc => h (inAlphabet_of_namePart (.inr hc)))
      (fun hc => h (inAlphabet_of_namePart (.inl hc))) (fun hc => h (.inl hc))
  rw [hnone] at hshape
  exact lexeme_iff_shape.mpr hshape

/-- **The tokens of a blank text** are its strangers. -/
theorem scanned_of_blank {t : Text} (h : Blank t) (n : Nat) : Scanned n t (strangers n t) := by
  induction t generalizing n with
  | nil => exact .done (by simp [Gap])
  | cons c cs ih =>
      obtain ⟨hc, hcs⟩ := List.forall_mem_cons.mp h
      have hnext := ih hcs (n + c.utf8Size)
      rw [strangers]
      by_cases hin : InAlphabet c
      · rw [if_pos hin]
        have hgap : Gap [c] := by simpa [Gap] using (inAlphabet_iff_of_blank hc).mp hin
        exact Scanned.gap_append hgap hnext
      · rw [if_neg hin]
        have hnil : Gap [] := by simp [Gap]
        have hstop : Stops .illegal cs := fun _ _ => not_false
        exact @Scanned.token n [] [c] cs .illegal _ hnil (lexeme_of_not_inAlphabet hin) hstop hnext

/-! ## Around a source -/

lemma isIllegal_of_mem_strangers {n : Nat} {s : Text} {t : Token} (h : t ∈ strangers n s) :
    t.kind = .illegal := by
  induction s generalizing n with
  | nil => cases h
  | cons c cs ih =>
      rw [strangers] at h
      split at h
      · exact ih h
      · rcases List.mem_cons.mp h with rfl | h
        · rfl
        · exact ih h

/-- **Blank characters around a source** add illegal tokens before and after its own, and move these
    on. -/
theorem scan_pad {p q : Text} (hp : Blank p) (hq : Blank q) (u : Text) :
    scan (p ++ u ++ q) =
      strangers 0 p ++ (scan u).map (Token.shift (byteLength p)) ++
        strangers (byteLength p + byteLength u) q := by
  have hfront := scanned_of_blank hp 0
  have hmiddle := (scanned_scanFrom 0 u).shift (byteLength p)
  have hback := scanned_of_blank hq (byteLength p + byteLength u)
  have hfree : ∀ t, EndsWith p (strangers 0 p) t → Stops t.kind u := by
    rintro t ⟨-, ht⟩ d -
    rw [isIllegal_of_mem_strangers (List.mem_of_getLast? ht)]
    exact not_false
  rw [Nat.add_zero] at hmiddle
  rw [← Nat.zero_add (byteLength p)] at hmiddle
  have htwo := hfront.append hfree hmiddle
  rw [Nat.zero_add] at htwo
  have hall := htwo.append (fun t _ => stops_of_blank hq t.kind)
    (by rwa [byteLength_append, Nat.zero_add])
  exact hall.scanFrom_eq

/-- **What is trimmed of a text** has illegal tokens of its own. -/
theorem scan_trim (s : Text) :
    scan s =
      strangers 0 (leading s) ++ (scan s.trim).map (Token.shift (byteLength (leading s))) ++
        strangers (byteLength (leading s) + byteLength s.trim) (trailing s) := by
  have hpad := scan_pad (blank_leading s) (blank_trailing s) s.trim
  rwa [leading_append_trim_append] at hpad

end MonkeyTokens
