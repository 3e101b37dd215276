import MonkeyTokens.Proofs.Token.Scanned

/-!
# The alphabet of the language

Whether a character is illegal depends on the character alone: no token swallows an illegal
character, and a character that is legal somewhere is legal everywhere.

* `Grammar.InAlphabet` — the characters of spaces, words, numbers and symbols;
  `Grammar.AllInAlphabet` — the texts of these;
* `strangers` — the illegal tokens that the characters outside the alphabet make up, each at its
  place, said without any scanning;
* `shape_illegal_iff`, `Shape.rest_inAlphabet` — a lexeme is illegal exactly when it starts outside
  the alphabet, and after its first character it is never outside;
* **`Scanned.filter_isIllegal`** — the illegal tokens of a scan are the strangers of its source.
-/

namespace MonkeyTokens

open Text

namespace Grammar

/-- The characters of spaces, words, numbers and symbols. -/
def InAlphabet (c : Char) : Prop :=
  Spacing c ∨ Letter c ∨ Digit c ∨ c = '_' ∨ c ∈ "+-*/<>=!,;(){}".toList

instance : DecidablePred InAlphabet := fun c =>
  inferInstanceAs (Decidable
    (Spacing c ∨ Letter c ∨ Digit c ∨ c = '_' ∨ c ∈ "+-*/<>=!,;(){}".toList))

/-- All characters of a text are in the alphabet. -/
def AllInAlphabet (t : Text) : Prop :=
  ∀ c ∈ t, InAlphabet c

-- checked along the text: there is also a way through all characters there are, which is endless
instance : DecidablePred AllInAlphabet := fun t =>
  decidable_of_iff (t.all fun c => decide (InAlphabet c)) (by simp [AllInAlphabet])

end Grammar

open Grammar

/-- The illegal tokens of a text at byte offset `n`: one for each character outside the alphabet,
    with that character as its text and the bytes of it as its span. -/
def strangers (n : Nat) : Text → List Token
  | [] => []
  | c :: cs =>
    if InAlphabet c then strangers (n + c.utf8Size) cs
    else ⟨.illegal, [c], ⟨n, n + c.utf8Size⟩⟩ :: strangers (n + c.utf8Size) cs

lemma strangers_append (n : Nat) (a b : Text) :
    strangers n (a ++ b) = strangers n a ++ strangers (n + byteLength a) b := by
  induction a generalizing n with
  | nil => rfl
  | cons c cs ih =>
      rw [List.cons_append, strangers, strangers, ih, byteLength_cons, Nat.add_assoc]
      split <;> rfl

lemma strangers_of_allInAlphabet {t : Text} (h : AllInAlphabet t) (n : Nat) :
    strangers n t = [] := by
  induction t generalizing n with
  | nil => rfl
  | cons c cs ih =>
      obtain ⟨hc, hcs⟩ := List.forall_mem_cons.mp h
      rw [strangers, if_pos hc, ih hcs]

/-- There are as many strangers as characters outside the alphabet. -/
lemma length_strangers (n : Nat) (t : Text) :
    (strangers n t).length = (t.filter fun c => ¬ InAlphabet c).length := by
  induction t generalizing n with
  | nil => rfl
  | cons c cs ih =>
      rw [strangers]
      by_cases hc : InAlphabet c <;> simp [hc, ih]

lemma strangers_eq_nil_iff {n : Nat} {t : Text} :
    strangers n t = [] ↔ AllInAlphabet t := by
  rw [← List.length_eq_zero_iff, length_strangers, List.length_eq_zero_iff,
    List.filter_eq_nil_iff]
  simp [AllInAlphabet]

/-! ## Lexemes and the alphabet -/

lemma inAlphabet_of_namePart {c : Char} (h : NamePart c) : InAlphabet c := by
  rcases h with (h | rfl) | h
  · exact .inr (.inl h)
  · exact .inr (.inr (.inr (.inl rfl)))
  · exact .inr (.inr (.inl h))

/-- The characters that are a token each and start no longer one. -/
lemma ofCharacter?_eq_none_iff {c : Char} :
    Kind.ofCharacter? c = none ↔ c ∉ "+-*/<>,;(){}".toList := by
  constructor
  · rintro h hc
    have hall : ("+-*/<>,;(){}".toList.all fun d => (Kind.ofCharacter? d).isSome) = true := by
      decide
    have hsome := List.all_eq_true.mp hall c hc
    rw [h] at hsome
    cases hsome
  · intro h
    unfold Kind.ofCharacter?
    split
    case h_13 => rfl
    all_goals exact absurd (by decide) h

/-- A lexeme is illegal exactly when it starts outside the alphabet. -/
lemma shape_illegal_iff {k : Kind} {c : Char} {t : Text} (h : Shape k c t) :
    k = .illegal ↔ ¬ InAlphabet c := by
  cases h with
  | number hc _ => simp [inAlphabet_of_namePart (.inr hc)]
  | word hc _ =>
      have hword : Kind.ofWord (c :: t) ≠ .illegal := by
        unfold Kind.ofWord
        split <;> simp
      simp [hword, inAlphabet_of_namePart (.inl hc)]
  | assign | equal | bang | notEqual =>
      constructor
      · intro hk
        cases hk
      · intro hc
        exact absurd (by decide) hc
  | single heq hbang hdigit hname hgap =>
      cases hk : Kind.ofCharacter? c with
      | none =>
          have hno : ¬ InAlphabet c := by
            rintro (hc | hc | hc | hc | hc)
            · exact hgap hc
            · exact hname (.inl hc)
            · exact hdigit hc
            · exact hname (.inr hc)
            · have hsymbol := ofCharacter?_eq_none_iff.mp hk
              simp_all
          simp [hno]
      | some k =>
          have hin : InAlphabet c := by
            have hsymbol : c ∈ "+-*/<>,;(){}".toList := by
              by_contra hno
              simp [ofCharacter?_eq_none_iff.mpr hno] at hk
            have hsub : AllInAlphabet "+-*/<>,;(){}".toList := by decide
            exact hsub c hsymbol
          have hlegal : k ≠ .illegal := by
            rintro rfl
            simpa [Kind.symbol?] using symbol?_of_ofCharacter? hk
          simp [hin, hlegal]

/-- After its first character a lexeme is never outside the alphabet. -/
lemma Shape.rest_inAlphabet {k : Kind} {c : Char} {t : Text} (h : Shape k c t) :
    AllInAlphabet t := by
  intro d hd
  rcases h.rest_cases d hd with hpart | rfl
  · exact inAlphabet_of_namePart hpart
  · decide

/-- The strangers of a lexeme: itself, if it is illegal. -/
lemma strangers_lexeme {k : Kind} {text : Text} (h : Lexeme k text) (n : Nat) :
    strangers n text = [⟨k, text, ⟨n, n + byteLength text⟩⟩].filter Token.isIllegal := by
  obtain ⟨c, t, rfl, hs⟩ := h.exists_shape
  have hrest := strangers_of_allInAlphabet hs.rest_inAlphabet (n + c.utf8Size)
  rw [strangers, hrest]
  by_cases hk : k = .illegal
  · have hnil : t = [] := by
      subst hk
      cases h with
      | legal h =>
          cases h with
          | symbol h => simp [Kind.symbol?] at h
      | illegal => rfl
    have hc := (shape_illegal_iff hs).mp hk
    simp [hc, hk, hnil, Token.isIllegal]
  · have hc : InAlphabet c := not_not.mp fun hc => hk ((shape_illegal_iff hs).mpr hc)
    simp [hc, hk, Token.isIllegal]

/-! ## Whole sources -/

/-- **The illegal tokens of a scan** are the strangers of its source. -/
theorem Scanned.filter_isIllegal {n : Nat} {s : Text} {ts : List Token} (h : Scanned n s ts) :
    ts.filter Token.isIllegal = strangers n s := by
  have hspace : ∀ {gap : Text}, Gap gap → ∀ m, strangers m gap = [] :=
    fun hgap => strangers_of_allInAlphabet fun c hc => .inl (hgap c hc)
  induction h with
  | done hgap => rw [hspace hgap, List.filter_nil]
  | token hgap hlex _ _ ih =>
      rw [strangers_append, strangers_append, hspace hgap, List.nil_append, strangers_lexeme hlex,
        ← ih, ← List.filter_append, List.singleton_append]

end MonkeyTokens
