import MonkeyTokens.Proofs.Token.Tiling

/-!
# Printing tokens and scanning them again

Lexemes are written one after another with gaps around them, and the text is scanned.  Spaces are
needed only between lexemes that would run into each other.

* `Glues` — the pairs of neighbours that need a space, by their kinds and the second text;
* `Layout` — a choice of gaps around some items, and `Layout.Separated` when no pair that glues
  is left without a space;
* `glues_iff_grows` — a pair glues exactly when the first lexeme grows with the first character of
  the second;
* `map_item_scanFrom_iff` — what one lexeme adds to the scan, and `scanFrom_interleave_iff`, by
  induction, what all of them give;
* **`tokens_layout_iff`** — a layout is scanned back to its items exactly when it is separated.
-/

namespace MonkeyTokens

open Grammar Text

/-! ## Layouts -/

/-- A token without its place. -/
def Token.item (t : Token) : Kind × Text :=
  (t.kind, t.text)

/-- Identifiers and reserved words. -/
def Word : Kind → Prop
  | .identifier | .keyword _ => True
  | _ => False

/-- The second item may not follow the first one without a space. -/
def Glues (p q : Kind × Text) : Prop :=
  (Word p.1 ∧ (Word q.1 ∨ q.1 = .integer)) ∨
    (p.1 = .integer ∧ q.1 = .integer) ∨
    ((p.1 = .operator .assign ∨ p.1 = .operator .bang) ∧ q.2.head? = some '=')

/-- Every empty gap between two neighbours is between two that do not glue.  The first gap stands
    in front of the first item. -/
def Separated : List Text → List (Kind × Text) → Prop
  | _ :: g :: gaps, p :: q :: items =>
      (g = [] → ¬ Glues p q) ∧ Separated (g :: gaps) (q :: items)
  | _, _ => True

/-- Gaps before, between and after some items. -/
structure Layout (items : List (Kind × Text)) where
  gaps : List Text
  blank : ∀ g ∈ gaps, Gap g
  length_gaps : gaps.length = items.length + 1

namespace Layout

variable {items : List (Kind × Text)}

/-- The items written out. -/
def text (l : Layout items) : Text :=
  interleave l.gaps (items.map Prod.snd)

/-- No two items of the layout run into each other. -/
def Separated (l : Layout items) : Prop :=
  MonkeyTokens.Separated l.gaps items

end Layout

/-! ## What glues -/

lemma word_iff_nameStart {k : Kind} {c : Char} {t : Text} (h : Shape k c t) :
    Word k ↔ NameStart c := by
  cases h with
  | number hc _ =>
      have hname : ¬ NameStart c := fun h => not_digit_of_nameStart h hc
      simp only [Word, hname]
  | word hc _ =>
      have hword : Word (.ofWord (c :: t)) := by
        unfold Kind.ofWord
        split <;> trivial
      simp only [hword, hc]
  | assign | equal | bang | notEqual =>
      constructor
      · intro h
        exact h.elim
      · intro h
        exact absurd h (by decide)
  | single _ _ _ hname _ =>
      have hword : ¬ Word ((Kind.ofCharacter? c).getD .illegal) := by
        unfold Kind.ofCharacter?
        split <;> exact not_false
      simp only [hword, hname]

lemma integer_iff_digit {k : Kind} {c : Char} {t : Text} (h : Shape k c t) :
    k = .integer ↔ Digit c := by
  cases h with
  | number hc _ => simp only [hc]
  | word hc _ =>
      have hint : Kind.ofWord (c :: t) ≠ .integer := by
        unfold Kind.ofWord
        split <;> simp
      simp only [hint, not_digit_of_nameStart hc]
  | assign | equal | bang | notEqual =>
      constructor
      · intro h
        cases h
      · intro h
        exact absurd h (by decide)
  | single _ _ hdigit _ _ =>
      have hint : (Kind.ofCharacter? c).getD .illegal ≠ .integer := by
        unfold Kind.ofCharacter?
        split <;> simp
      simp only [hint, hdigit]

/-- **Two items glue** exactly when the first grows with the first character of the second. -/
theorem glues_iff_grows {p q : Kind × Text} {c : Char} {t : Text} (hq : Lexeme q.1 q.2)
    (hc : q.2 = c :: t) : Glues p q ↔ Grows p.1 c := by
  rw [hc] at hq
  have hword := word_iff_nameStart (lexeme_iff_shape.mp hq)
  have hint := integer_iff_digit (lexeme_iff_shape.mp hq)
  obtain ⟨k, s⟩ := p
  rw [Glues, hword, hint, hc]
  cases k with
  | identifier | keyword w => simp [Word, Grows, NamePart]
  | integer => simp [Word, Grows]
  | operator o => cases o <;> simp [Word, Grows]
  | eof | illegal | separator s | bracket b => simp [Word, Grows]

/-- No lexeme grows with a space. -/
lemma not_grows_of_spacing {k : Kind} {c : Char} (hc : Spacing c) : ¬ Grows k c := by
  intro h
  cases k with
  | identifier | keyword w => exact not_spacing_of_namePart h hc
  | integer => exact not_spacing_of_namePart (.inr h) hc
  | operator o =>
      cases o with
      | assign | bang =>
          obtain rfl : c = '=' := h
          exact absurd hc (by decide)
      | _ => exact h
  | eof | illegal | separator s | bracket b => exact h

lemma stops_of_gap {k : Kind} {gap : Text} (hgap : Gap gap) : Stops k gap :=
  fun d hd => not_grows_of_spacing (hgap d (List.mem_of_head? hd))

/-- In front of an item a lexeme stops, unless the gap is empty and the two glue. -/
lemma stops_iff_not_glues {p q : Kind × Text} {gap : Text} (hgap : Gap gap)
    (hq : Lexeme q.1 q.2) (rest : Text) :
    Stops p.1 (gap ++ (q.2 ++ rest)) ↔ (gap = [] → ¬ Glues p q) := by
  cases gap with
  | nil =>
      obtain ⟨c, t, hc, -⟩ := hq.exists_shape
      rw [glues_iff_grows hq hc, hc]
      simp [Stops]
  | cons d gap =>
      have hd : ¬ Grows p.1 d := not_grows_of_spacing (hgap d (by simp))
      simp [Stops, hd]

/-! ## Scanning a layout -/

/-- **One item.**  The scan gives it back exactly when what follows does not grow it; otherwise a
    longer lexeme is read in its place. -/
theorem map_item_scanFrom_iff {p : Kind × Text} {gap : Text} (hgap : Gap gap)
    (hp : Lexeme p.1 p.2) (n : Nat) (rest : Text) (items : List (Kind × Text)) :
    (scanFrom n (gap ++ (p.2 ++ rest))).map Token.item = p :: items ↔
      Stops p.1 rest ∧
        (scanFrom (n + byteLength gap + byteLength p.2) rest).map Token.item = items := by
  rw [scanFrom_gap hgap]
  by_cases hstop : Stops p.1 rest
  · rw [scanFrom_lexeme hp hstop]
    simp [Token.item, hstop]
  · have hgrows : ∃ d ∈ rest.head?, Grows p.1 d := by
      simpa [Stops] using hstop
    obtain ⟨d, hd, hgrows⟩ := hgrows
    obtain ⟨b, rfl⟩ := List.head?_eq_some_iff.mp hd
    obtain ⟨j, more, rest, rfl, hlonger, hnext⟩ := hp.exists_longer hgrows b
    -- the token that is read instead starts with all of `p` and has more
    have hsource : p.2 ++ d :: (more ++ rest) = p.2 ++ d :: more ++ rest := by simp
    rw [hsource, scanFrom_lexeme hlonger hnext]
    constructor
    · intro heq
      have htext : p.2 ++ d :: more = p.2 := congrArg Prod.snd (List.cons.inj heq).1
      simp at htext
    · rintro ⟨h, -⟩
      exact absurd h hstop

/-- **All items**, by induction on them. -/
theorem scanFrom_interleave_iff {items : List (Kind × Text)} {gaps : List Text}
    (hitems : ∀ p ∈ items, Lexeme p.1 p.2) (hgaps : ∀ g ∈ gaps, Gap g)
    (hlen : gaps.length = items.length + 1) (n : Nat) :
    (scanFrom n (interleave gaps (items.map Prod.snd))).map Token.item = items ↔
      Separated gaps items := by
  induction items generalizing gaps n with
  | nil =>
      obtain ⟨g, rfl⟩ := List.length_eq_one_iff.mp hlen
      have hscan : scanFrom n g = [] := (Scanned.done (hgaps g (by simp))).scanFrom_eq
      simp [interleave, hscan, Separated]
  | cons p items ih =>
      obtain ⟨g, gaps, rfl⟩ := List.exists_cons_of_length_eq_add_one hlen
      obtain ⟨hp, hitems⟩ := List.forall_mem_cons.mp hitems
      obtain ⟨hg, hgaps⟩ := List.forall_mem_cons.mp hgaps
      have hlen : gaps.length = items.length + 1 := by simpa using hlen
      rw [List.map_cons, interleave, map_item_scanFrom_iff hg hp, ih hitems hgaps hlen]
      cases items with
      | nil =>
          obtain ⟨g', rfl⟩ := List.length_eq_one_iff.mp hlen
          have hstop : Stops p.1 g' := stops_of_gap (hgaps g' (by simp))
          simp [interleave, Separated, hstop]
      | cons q items =>
          obtain ⟨g', gaps, rfl⟩ := List.exists_cons_of_length_eq_add_one hlen
          rw [List.map_cons, interleave,
            stops_iff_not_glues (hgaps g' (by simp)) (hitems q (by simp)), Separated]

/-! ## The round trip -/

/-- **Print and scan.**  A layout of lexemes is scanned back to them exactly when every empty gap
    stands between two that do not glue.  So all separated layouts have the same tokens, up to
    their places. -/
theorem tokens_layout_iff (items : List (Kind × Text)) (hitems : ∀ p ∈ items, Lexeme p.1 p.2) :
    (∀ l : Layout items, (Cursor.tokens l.text).map Token.item = items ↔ l.Separated) ∧
      ∀ l m : Layout items, l.Separated → m.Separated →
        (Cursor.tokens l.text).map Token.item = (Cursor.tokens m.text).map Token.item := by
  have hiff : ∀ l : Layout items,
      (Cursor.tokens l.text).map Token.item = items ↔ l.Separated := by
    intro l
    rw [Cursor.tokens_eq_scan]
    exact scanFrom_interleave_iff hitems l.blank l.length_gaps 0
  refine ⟨hiff, fun l m hl hm => ?_⟩
  rw [(hiff l).mpr hl, (hiff m).mpr hm]

/-- `=` and `==` are scanned back when a space stands between them, and only then. -/
theorem tokens_layout_iff_spaced :
    (∀ p ∈ [(Kind.operator .assign, ['=']), (Kind.operator .equal, ['=', '='])],
        Lexeme p.1 p.2) ∧
      (Cursor.tokens ['=', ' ', '=', '=']).map Token.item =
        [(.operator .assign, ['=']), (.operator .equal, ['=', '='])] ∧
      (Cursor.tokens ['=', '=', '=']).map Token.item ≠
        [(.operator .assign, ['=']), (.operator .equal, ['=', '='])] := by
  have hitems : ∀ p ∈ [(Kind.operator .assign, ['=']), (Kind.operator .equal, ['=', '='])],
      Lexeme p.1 p.2 :=
    List.forall_mem_cons.mpr
      ⟨.legal (.symbol rfl), List.forall_mem_singleton.mpr (.legal (.symbol rfl))⟩
  have hiff := (tokens_layout_iff _ hitems).1
  refine ⟨hitems, (hiff ⟨[[], [' '], []], by decide, rfl⟩).mpr ?_, fun h => ?_⟩
  · exact ⟨fun h => absurd h (by simp), trivial⟩
  · have hsep := (hiff ⟨[[], [], []], by decide, rfl⟩).mp h
    exact hsep.1 rfl (.inr (.inr ⟨.inl rfl, rfl⟩))

end MonkeyTokens
