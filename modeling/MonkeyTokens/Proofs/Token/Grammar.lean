import MonkeyTokens.Token.Scan
import Mathlib.Tactic.Lemma

/-!
# The grammar of lexemes

The language of each kind of token, said without the scanner.

**The grammar.**  `Grammar.Legal` gives each kind with a symbol its symbol, integers the non-empty
digit strings, and identifiers the words that are not reserved.  `Grammar.Lexeme` adds the illegal
characters: those that are no space and start no legal lexeme.  `Grammar.Grows k d` says that a
lexeme of kind `k` goes on when the character `d` follows.

**The character classes** of the grammar are those of the scanner (`isGap_iff`, `isDigit_iff`,
`startsName_iff`, `continuesName_iff`).

**First characters.**  `Shape` sorts the lexemes by the character they start with, which is how
the scanner decides what to read; **`lexeme_iff_shape`** says that nothing is added or lost by it.
-/

namespace MonkeyTokens

/-! ## The grammar -/

namespace Grammar

/-- Space, tab, line feed and carriage return may stand between lexemes. -/
def Spacing (c : Char) : Prop :=
  c = ' ' ∨ c = '\t' ∨ c = '\n' ∨ c = '\r'

/-- The ASCII letters. -/
def Letter (c : Char) : Prop :=
  ('A' ≤ c ∧ c ≤ 'Z') ∨ ('a' ≤ c ∧ c ≤ 'z')

/-- The ASCII digits. -/
def Digit (c : Char) : Prop :=
  '0' ≤ c ∧ c ≤ '9'

/-- What a word can start with. -/
def NameStart (c : Char) : Prop :=
  Letter c ∨ c = '_'

/-- What a word can go on with. -/
def NamePart (c : Char) : Prop :=
  NameStart c ∨ Digit c

instance : DecidablePred Spacing := fun c =>
  inferInstanceAs (Decidable (c = ' ' ∨ c = '\t' ∨ c = '\n' ∨ c = '\r'))

instance : DecidablePred Letter := fun c =>
  inferInstanceAs (Decidable (('A' ≤ c ∧ c ≤ 'Z') ∨ ('a' ≤ c ∧ c ≤ 'z')))

instance : DecidablePred Digit := fun c =>
  inferInstanceAs (Decidable ('0' ≤ c ∧ c ≤ '9'))

instance : DecidablePred NameStart := fun c =>
  inferInstanceAs (Decidable (Letter c ∨ c = '_'))

instance : DecidablePred NamePart := fun c =>
  inferInstanceAs (Decidable (NameStart c ∨ Digit c))

/-- A text that only separates. -/
def Gap (t : Text) : Prop :=
  ∀ c ∈ t, Spacing c

instance : DecidablePred Gap :=
  List.decidableBAll Spacing

/-- The lexemes of the language: symbols, numbers and words. -/
inductive Legal : Kind → Text → Prop
  | symbol {k : Kind} {t : Text} : k.symbol? = some t → Legal k t
  | integer {t : Text} : t ≠ [] → (∀ c ∈ t, Digit c) → Legal .integer t
  | identifier {c : Char} {t : Text} : NameStart c → (∀ d ∈ t, NamePart d) →
      (∀ k : Keyword, k.spelling ≠ c :: t) → Legal .identifier (c :: t)

/-- The lexemes of each kind.  A character is illegal if it is no space and no legal lexeme
    starts with it; the end of the input has no lexeme. -/
inductive Lexeme : Kind → Text → Prop
  | legal {k : Kind} {t : Text} : Legal k t → Lexeme k t
  | illegal {c : Char} : ¬ Spacing c → (∀ k t, ¬ Legal k (c :: t)) → Lexeme .illegal [c]

/-- A lexeme of the kind goes on when this character follows it. -/
def Grows : Kind → Char → Prop
  | .identifier, d | .keyword _, d => NamePart d
  | .integer, d => Digit d
  | .operator .assign, d | .operator .bang, d => d = '='
  | _, _ => False

/-- The text does not start with a character on which a lexeme of the kind goes on. -/
def Stops (k : Kind) (t : Text) : Prop :=
  ∀ d ∈ t.head?, ¬ Grows k d

end Grammar

open Grammar

/-! ## The character classes of the scanner -/

lemma isGap_iff {c : Char} : isGap c = true ↔ Spacing c := by
  simp [isGap, Spacing, or_assoc]

lemma isDigit_iff {c : Char} : c.isDigit = true ↔ Digit c := by
  simp [Char.isDigit, Digit, Char.le_def]

lemma isAlpha_iff {c : Char} : c.isAlpha = true ↔ Letter c := by
  have hupper : c.isUpper = true ↔ 'A' ≤ c ∧ c ≤ 'Z' := decide_eq_true_iff
  have hlower : c.isLower = true ↔ 'a' ≤ c ∧ c ≤ 'z' := by
    show (decide (c.val ≥ 'a'.val) && decide (c.val ≤ 'z'.val)) = true ↔ _
    rw [Bool.and_eq_true, decide_eq_true_iff, decide_eq_true_iff]
    exact Iff.rfl
  show (c.isUpper || c.isLower) = true ↔ _
  rw [Bool.or_eq_true, hupper, hlower, Letter]

lemma startsName_iff {c : Char} : startsName c = true ↔ NameStart c := by
  simp [startsName, NameStart, isAlpha_iff, or_comm]

lemma continuesName_iff {c : Char} : continuesName c = true ↔ NamePart c := by
  simp [continuesName, NamePart, startsName_iff, isDigit_iff]

lemma not_digit_of_nameStart {c : Char} (h : NameStart c) : ¬ Digit c := by
  simp only [NameStart, Letter, Digit, Char.le_def, UInt32.le_iff_toNat_le] at h ⊢
  rintro ⟨h0, h9⟩
  rcases h with (⟨hA, -⟩ | ⟨ha, -⟩) | rfl
  · exact absurd (Nat.le_trans hA h9) (by decide)
  · exact absurd (Nat.le_trans ha h9) (by decide)
  · exact absurd h9 (by decide)

/-! ## Lexemes by their first character

The scanner decides by the first character what it reads.  `Shape` sorts the lexemes the same way,
and `lexeme_iff_shape` says that this is the grammar again. -/

/-- How the lexemes that start with a given character go on. -/
inductive Shape : Kind → Char → Text → Prop
  | number {c : Char} {t : Text} : Digit c → (∀ d ∈ t, Digit d) → Shape .integer c t
  | word {c : Char} {t : Text} : NameStart c → (∀ d ∈ t, NamePart d) →
      Shape (.ofWord (c :: t)) c t
  | assign : Shape (.operator .assign) '=' []
  | equal : Shape (.operator .equal) '=' ['=']
  | bang : Shape (.operator .bang) '!' []
  | notEqual : Shape (.operator .notEqual) '!' ['=']
  | single {c : Char} : c ≠ '=' → c ≠ '!' → ¬ Digit c → ¬ NameStart c → ¬ Spacing c →
      Shape ((Kind.ofCharacter? c).getD .illegal) c []

lemma namePart_of_all {t : Text} (h : t.all continuesName = true) : ∀ d ∈ t, NamePart d :=
  fun d hd => continuesName_iff.mp (List.all_eq_true.mp h d hd)

lemma Keyword.spelling_eq_cons (k : Keyword) :
    ∃ c t, k.spelling = c :: t ∧ NameStart c ∧ ∀ d ∈ t, NamePart d := by
  cases k <;> exact ⟨_, _, rfl, by decide, namePart_of_all rfl⟩

lemma ofWord_spelling (k : Keyword) : Kind.ofWord k.spelling = .keyword k := by
  rw [Kind.ofWord, Keyword.ofText?_eq_some_iff.mpr rfl]

lemma ofWord_of_forall_ne {t : Text} (h : ∀ k : Keyword, k.spelling ≠ t) :
    Kind.ofWord t = .identifier := by
  rw [Kind.ofWord]
  split
  · next k hk => exact absurd (Keyword.ofText?_eq_some_iff.mp hk).symm (h k)
  · rfl

/-- A word is a lexeme, of its reserved word or as an identifier. -/
lemma legal_ofWord {c : Char} {t : Text} (hc : NameStart c) (ht : ∀ d ∈ t, NamePart d) :
    Legal (.ofWord (c :: t)) (c :: t) := by
  by_cases h : ∃ k : Keyword, k.spelling = c :: t
  · obtain ⟨k, hk⟩ := h
    rw [← hk, ofWord_spelling]
    exact .symbol rfl
  · have hne : ∀ k : Keyword, k.spelling ≠ c :: t := fun k hk => h ⟨k, hk⟩
    rw [ofWord_of_forall_ne hne]
    exact .identifier hc ht hne

lemma symbol?_of_ofCharacter? {c : Char} {k : Kind} (h : Kind.ofCharacter? c = some k) :
    k.symbol? = some [c] := by
  unfold Kind.ofCharacter? at h
  split at h <;> cases h <;> rfl

lemma shape_of_ofCharacter? {c : Char} {k : Kind} (h : Kind.ofCharacter? c = some k) :
    Shape k c [] := by
  have hclass : c ≠ '=' ∧ c ≠ '!' ∧ ¬ Digit c ∧ ¬ NameStart c ∧ ¬ Spacing c := by
    unfold Kind.ofCharacter? at h
    split at h
    case h_13 => simp at h
    all_goals decide
  obtain ⟨heq, hbang, hdigit, hname, hgap⟩ := hclass
  have hk : (Kind.ofCharacter? c).getD .illegal = k := by rw [h, Option.getD_some]
  rw [← hk]
  exact .single heq hbang hdigit hname hgap

lemma shape_of_symbol {k : Kind} {c : Char} {t : Text} (h : k.symbol? = some (c :: t)) :
    Shape k c t := by
  cases k with
  | eof | illegal | identifier | integer => simp [Kind.symbol?] at h
  | operator o =>
      cases o with
      | assign => cases h; exact .assign
      | equal => cases h; exact .equal
      | bang => cases h; exact .bang
      | notEqual => cases h; exact .notEqual
      | _ => cases h; exact shape_of_ofCharacter? rfl
  | separator s => cases s <;> cases h <;> exact shape_of_ofCharacter? rfl
  | bracket b => cases b <;> cases h <;> exact shape_of_ofCharacter? rfl
  | keyword w =>
      obtain ⟨d, u, hw, hd, hu⟩ := w.spelling_eq_cons
      obtain ⟨rfl, rfl⟩ : d = c ∧ u = t := by simpa [Kind.symbol?, hw] using h
      rw [← ofWord_spelling, hw]
      exact .word hd hu

lemma shape_of_legal {k : Kind} {c : Char} {t : Text} (h : Legal k (c :: t)) : Shape k c t := by
  cases h with
  | symbol h => exact shape_of_symbol h
  | integer _ h => exact .number (h c (by simp)) fun d hd => h d (by simp [hd])
  | identifier hc ht hne =>
      rw [← ofWord_of_forall_ne hne]
      exact .word hc ht

/-- **The grammar, sorted by first characters.** -/
theorem lexeme_iff_shape {k : Kind} {c : Char} {t : Text} :
    Lexeme k (c :: t) ↔ Shape k c t := by
  constructor
  · intro h
    cases h with
    | legal h => exact shape_of_legal h
    | illegal hgap hno =>
        -- a character of another class would start a legal lexeme
        have hnone : Kind.ofCharacter? c = none := by
          cases hk : Kind.ofCharacter? c with
          | none => rfl
          | some k => exact absurd (.symbol (symbol?_of_ofCharacter? hk)) (hno k [])
        have hs := Shape.single (c := c)
          (by rintro rfl; exact hno (.operator .assign) [] (.symbol rfl))
          (by rintro rfl; exact hno (.operator .bang) [] (.symbol rfl))
          (fun hd => hno _ [] (.integer (by simp) (by simpa using hd)))
          (fun hn => hno _ [] (legal_ofWord hn (by simp))) hgap
        rwa [hnone] at hs
  · intro h
    cases h with
    | number hc ht =>
        refine .legal (.integer (by simp) ?_)
        simpa [hc] using ht
    | word hc ht => exact .legal (legal_ofWord hc ht)
    | assign | equal | bang | notEqual => exact .legal (.symbol rfl)
    | single heq hbang hdigit hname hgap =>
        cases hk : Kind.ofCharacter? c with
        | some k => exact .legal (.symbol (symbol?_of_ofCharacter? hk))
        | none =>
            refine .illegal hgap fun k t hl => ?_
            cases shape_of_legal hl with
            | number hc _ => exact hdigit hc
            | word hc _ => exact hname hc
            | assign | equal => exact heq rfl
            | bang | notEqual => exact hbang rfl
            | single =>
                rw [hk] at hl
                cases hl with
                | symbol h => simp [Kind.symbol?] at h

/-! ## What a lexeme is made of -/

lemma not_spacing_of_namePart {c : Char} (h : NamePart c) : ¬ Spacing c := by
  rintro (rfl | rfl | rfl | rfl) <;> exact absurd h (by decide)

/-- A lexeme has a first character, and its shape is that of its class. -/
lemma Grammar.Lexeme.exists_shape {k : Kind} {t : Text} (h : Lexeme k t) :
    ∃ c u, t = c :: u ∧ Shape k c u := by
  cases t with
  | nil =>
      cases h with
      | legal h =>
          cases h with
          | symbol h =>
              cases k with
              | eof | illegal | identifier | integer => simp [Kind.symbol?] at h
              | operator o => cases o <;> simp [Kind.symbol?, Operator.spelling] at h
              | separator s => cases s <;> simp [Kind.symbol?, Separator.spelling] at h
              | bracket b => cases b <;> simp [Kind.symbol?, Bracket.spelling] at h
              | keyword w =>
                  obtain ⟨c, u, hw, -⟩ := w.spelling_eq_cons
                  simp [Kind.symbol?, hw] at h
          | integer h => exact absurd rfl h
  | cons c u => exact ⟨c, u, rfl, lexeme_iff_shape.mp h⟩

lemma Grammar.Lexeme.ne_nil {k : Kind} {t : Text} (h : Lexeme k t) : t ≠ [] := by
  obtain ⟨c, u, rfl, -⟩ := h.exists_shape
  simp

/-- The end of the input is no lexeme. -/
lemma Grammar.Lexeme.ne_eof {k : Kind} {t : Text} (h : Lexeme k t) : k ≠ .eof := by
  rintro rfl
  cases h with
  | legal h =>
      cases h with
      | symbol h => simp [Kind.symbol?] at h

/-- After its first character a lexeme goes on like a word, or with an equals sign. -/
lemma Shape.rest_cases {k : Kind} {c : Char} {t : Text} (h : Shape k c t) :
    ∀ d ∈ t, NamePart d ∨ d = '=' := by
  cases h with
  | number _ ht => exact fun d hd => .inl (.inr (ht d hd))
  | word _ ht => exact fun d hd => .inl (ht d hd)
  | assign | bang | single | equal | notEqual => simp

lemma Grammar.Lexeme.not_spacing {k : Kind} {t : Text} (h : Lexeme k t) :
    ∀ c ∈ t, ¬ Spacing c := by
  obtain ⟨c, u, rfl, hs⟩ := h.exists_shape
  intro d hd
  rcases List.mem_cons.mp hd with rfl | hd
  · cases hs with
    | number hc _ => exact not_spacing_of_namePart (.inr hc)
    | word hc _ => exact not_spacing_of_namePart (.inl hc)
    | assign | equal | bang | notEqual => decide
    | single _ _ _ _ hgap => exact hgap
  · rcases hs.rest_cases d hd with hpart | rfl
    · exact not_spacing_of_namePart hpart
    · decide

end MonkeyTokens
