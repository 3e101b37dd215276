import MonkeyTokens.Prompt.Balance
import MonkeyTokens.Proofs.Text.Slice
import MonkeyTokens.Proofs.Token.Scanned
import Mathlib.Algebra.Group.Int.Defs
import Mathlib.Algebra.Group.Nat.Defs
import Mathlib.Data.List.Infix

/-!
# Open brackets are counted by character

Whether an entry goes on is decided on its tokens.  Every bracket of the source is a token of its
own, and no other token has a bracket in it, so the tokens can be forgotten: what counts are the
characters, read in order.

**The specification.**  `Balance.level` counts opening brackets up and closing ones down.  A text is
`Balance.Unclosed` if no beginning of it closes more than was opened, and the whole of it closes
less than that.

**Tokens.**  A token counts as its first character does (`Shape.depthChange_eq`), and nothing after
that is a bracket (`Shape.weight_rest`).  So one token of a derivation is one step of the count
(`Balance.unclosed_lexeme_iff`), and by induction on the derivation the tokens leave brackets open
exactly if the text does (`Scanned.leavesOpen_iff`).

**Machine numbers.**  `Balance.needsMoreWord?` counts in 32 bits and gives nothing when a sum does
not fit.  No sum is larger than the number of characters that are read before the count is over
(`Balance.fits_append`), and as long as all sums fit the count is right
(`Scanned.leavesOpenWord?_eq`).  As soon as one does not, there is no answer
(`Scanned.leavesOpenWord?_eq_none`).

**`Balance.needsMore_iff_level`** puts these together.
-/

namespace MonkeyTokens

open Grammar Text

namespace Balance

/-! ## The specification -/

/-- What a character adds to the number of open brackets. -/
def weight (c : Char) : Int :=
  if c = '(' ∨ c = '{' then 1 else if c = ')' ∨ c = '}' then -1 else 0

/-- Opening brackets less closing ones. -/
def level : Text → Int
  | [] => 0
  | c :: t => weight c + level t

/-- Read with `depth` brackets open, a text closes none that was not opened and leaves some open. -/
def Unclosed (depth : Int) (t : Text) : Prop :=
  (∀ p, p <+: t → 0 ≤ depth + level p) ∧ 0 < depth + level t

lemma level_nil : level [] = 0 := rfl

lemma level_cons (c : Char) (t : Text) : level (c :: t) = weight c + level t := rfl

lemma weight_le_one (c : Char) : weight c ≤ 1 := by
  unfold weight
  split_ifs <;> decide

lemma weight_eq_zero {c : Char} (hl : c ≠ '(') (hr : c ≠ ')') (hlb : c ≠ '{') (hrb : c ≠ '}') :
    weight c = 0 := by
  simp [weight, hl, hr, hlb, hrb]

/-! ## One step of the count -/

lemma unclosed_nil_iff {depth : Int} : Unclosed depth [] ↔ 0 < depth := by
  constructor
  · rintro ⟨-, h⟩
    rwa [level_nil, Int.add_zero] at h
  · intro h
    refine ⟨fun p hp => ?_, ?_⟩
    · rw [List.prefix_nil.mp hp, level_nil]
      omega
    · rwa [level_nil, Int.add_zero]

/-- A character is read, and the rest goes on from the depth that it leaves. -/
lemma unclosed_cons_iff {depth : Int} (h0 : 0 ≤ depth) (c : Char) (t : Text) :
    Unclosed depth (c :: t) ↔ 0 ≤ depth + weight c ∧ Unclosed (depth + weight c) t := by
  have hcons : ∀ p, depth + level (c :: p) = depth + weight c + level p := fun p => by
    rw [level_cons, Int.add_assoc]
  constructor
  · rintro ⟨hall, hend⟩
    rw [hcons] at hend
    have hparts : ∀ p, p <+: t → 0 ≤ depth + weight c + level p := fun p hp => by
      rw [← hcons]
      exact hall (c :: p) (List.prefix_cons_inj c |>.mpr hp)
    have hfirst := hparts [] List.nil_prefix
    rw [level_nil, Int.add_zero] at hfirst
    exact ⟨hfirst, hparts, hend⟩
  · rintro ⟨-, hparts, hend⟩
    refine ⟨fun p hp => ?_, by rwa [hcons]⟩
    rcases List.prefix_cons_iff.mp hp with rfl | ⟨q, rfl, hq⟩
    · rwa [level_nil, Int.add_zero]
    · rw [hcons]
      exact hparts q hq

/-- Characters that are no brackets are passed over. -/
lemma unclosed_append_iff {depth : Int} (h0 : 0 ≤ depth) {t : Text} (ht : ∀ c ∈ t, weight c = 0)
    (s : Text) : Unclosed depth (t ++ s) ↔ Unclosed depth s := by
  induction t with
  | nil => rfl
  | cons c t ih =>
      have hc := ht c List.mem_cons_self
      rw [List.cons_append, unclosed_cons_iff h0, hc, Int.add_zero,
        ih fun d hd => ht d (List.mem_cons_of_mem c hd)]
      exact and_iff_right h0

end Balance

open Balance

/-! ## Brackets and tokens -/

lemma Grammar.Spacing.weight_eq {c : Char} (h : Spacing c) : weight c = 0 := by
  rcases h with rfl | rfl | rfl | rfl <;> rfl

lemma Grammar.NamePart.weight_eq {c : Char} (h : NamePart c) : weight c = 0 := by
  refine weight_eq_zero ?_ ?_ ?_ ?_ <;> rintro rfl <;> exact absurd h (by decide)

lemma depthChange_ofCharacter (c : Char) :
    ((Kind.ofCharacter? c).getD .illegal).depthChange = weight c := by
  unfold Kind.ofCharacter?
  split
  case h_13 => exact (weight_eq_zero ‹_› ‹_› ‹_› ‹_›).symm
  all_goals rfl

/-- **A token counts as its first character does.** -/
lemma Shape.depthChange_eq {k : Kind} {c : Char} {t : Text} (h : Shape k c t) :
    k.depthChange = weight c := by
  cases h with
  | number hc _ => exact (NamePart.weight_eq (.inr hc)).symm
  | word hc _ =>
      rw [NamePart.weight_eq (.inl hc), Kind.ofWord]
      split <;> rfl
  | assign | equal | bang | notEqual => rfl
  | single => exact depthChange_ofCharacter c

/-- Nothing after the first character of a lexeme is a bracket. -/
lemma Shape.weight_rest {k : Kind} {c : Char} {t : Text} (h : Shape k c t) :
    ∀ d ∈ t, weight d = 0 := by
  intro d hd
  rcases h.rest_cases d hd with hpart | rfl
  · exact hpart.weight_eq
  · rfl

/-- A token that follows a gap is one step of the count. -/
lemma Balance.unclosed_lexeme_iff {depth : Int} (h0 : 0 ≤ depth) {gap text : Text} {k : Kind}
    (hgap : Gap gap) (h : Lexeme k text) (rest : Text) :
    Unclosed depth (gap ++ (text ++ rest)) ↔
      0 ≤ depth + k.depthChange ∧ Unclosed (depth + k.depthChange) rest := by
  obtain ⟨c, t, rfl, hs⟩ := h.exists_shape
  rw [unclosed_append_iff h0 fun d hd => (hgap d hd).weight_eq, List.cons_append,
    unclosed_cons_iff h0, hs.depthChange_eq]
  exact and_congr_right fun hnext => unclosed_append_iff hnext hs.weight_rest rest

/-- **Tokens count what characters count.** -/
theorem Scanned.leavesOpen_iff {n : Nat} {s : Text} {ts : List Token} (h : Scanned n s ts) :
    ∀ depth, 0 ≤ depth → (leavesOpen depth ts = true ↔ Unclosed depth s) := by
  induction h with
  | @done n gap hgap =>
      intro depth h0
      have hpass := unclosed_append_iff h0 (fun c hc => (hgap c hc).weight_eq) []
      rw [List.append_nil, unclosed_nil_iff] at hpass
      rw [hpass, leavesOpen, decide_eq_true_iff]
  | @token n gap text rest k ts hgap hlex _ _ ih =>
      intro depth h0
      rw [unclosed_lexeme_iff h0 hgap hlex]
      simp only [leavesOpen]
      split
      case isTrue hneg =>
          simp only [Bool.false_eq_true, false_iff, not_and]
          exact fun h => absurd hneg (by omega)
      case isFalse hneg =>
          have hnext : 0 ≤ depth + k.depthChange := by omega
          rw [ih _ hnext, and_iff_right hnext]

namespace Balance

/-- A source leaves a bracket open exactly if its characters do. -/
theorem needsMore_iff_unclosed (source : Text) : needsMore source = true ↔ Unclosed 0 source :=
  (scanned_scanFrom 0 source).leavesOpen_iff 0 (Int.le_refl 0)

/-! ## Counting in 32 bits -/

/-- Counted from `depth` on, the brackets of a text give no sum that is too large.  The count is
    over at a sum below zero. -/
def Fits (depth : Int) : Text → Prop
  | [] => True
  | c :: t => depth + weight c < 2 ^ 31 ∧ (0 ≤ depth + weight c → Fits (depth + weight c) t)

/-- A token changes the depth by one at most, which fits. -/
lemma toInt_depthChange (k : Kind) : (Int32.ofInt k.depthChange).toInt = k.depthChange := by
  unfold Kind.depthChange
  split <;> rfl

lemma neg_one_le_depthChange (k : Kind) : -1 ≤ k.depthChange := by
  unfold Kind.depthChange
  split <;> decide

lemma addWord?_of_lt {a b : Int32} (hlow : -2 ^ 31 ≤ a.toInt + b.toInt)
    (hhigh : a.toInt + b.toInt < 2 ^ 31) :
    ∃ c, addWord? a b = some c ∧ c.toInt = a.toInt + b.toInt := by
  have hsum : (a + b).toInt = a.toInt + b.toInt := by
    rw [Int32.toInt_add]
    exact Int.bmod_eq_of_le (by omega) (by omega)
  exact ⟨a + b, by rw [addWord?, if_pos hsum], hsum⟩

lemma addWord?_of_le {a b : Int32} (h : 2 ^ 31 ≤ a.toInt + b.toInt) : addWord? a b = none := by
  have hsum := (a + b).toInt_lt
  rw [addWord?, if_neg (by omega)]

/-- **When a count is over in time.**  A text fits if a beginning of it is short enough and the
    count is over there: nothing follows, or more was closed than opened. -/
lemma fits_append {depth : Int} (h0 : 0 ≤ depth) {t : Text} (ht : depth + t.length < 2 ^ 31)
    {s : Text} (hs : s ≠ [] → depth + level t < 0) : Fits depth (t ++ s) := by
  induction t generalizing depth with
  | nil =>
      cases s with
      | nil => trivial
      | cons c s =>
          have hneg := hs (by simp)
          rw [level_nil] at hneg
          omega
  | cons c t ih =>
      have hc := weight_le_one c
      rw [List.length_cons] at ht
      refine ⟨by omega, fun hnext => ih hnext (by omega) fun h => ?_⟩
      have hneg := hs h
      rw [level_cons] at hneg
      omega

lemma fits_of_length {t : Text} (h : t.length < 2 ^ 31) : Fits 0 t := by
  have hfits := fits_append (Int.le_refl 0) (t := t) (by omega) (s := []) (absurd rfl)
  rwa [List.append_nil] at hfits

/-- Characters that are no brackets make no difference. -/
lemma fits_append_iff {depth : Int} (h0 : 0 ≤ depth) (hdepth : depth < 2 ^ 31) {t : Text}
    (ht : ∀ c ∈ t, weight c = 0) (s : Text) : Fits depth (t ++ s) ↔ Fits depth s := by
  induction t with
  | nil => rfl
  | cons c t ih =>
      have hrest := ih fun d hd => ht d (List.mem_cons_of_mem c hd)
      rw [List.cons_append, Fits, ht c List.mem_cons_self, Int.add_zero, hrest]
      exact ⟨fun h => h.2 h0, fun h => ⟨hdepth, fun _ => h⟩⟩

/-- A token that follows a gap is one step. -/
lemma fits_lexeme_iff {depth : Int} (h0 : 0 ≤ depth) (hdepth : depth < 2 ^ 31) {gap text : Text}
    {k : Kind} (hgap : Gap gap) (h : Lexeme k text) (rest : Text) :
    Fits depth (gap ++ (text ++ rest)) ↔
      depth + k.depthChange < 2 ^ 31 ∧
        (0 ≤ depth + k.depthChange → Fits (depth + k.depthChange) rest) := by
  obtain ⟨c, t, rfl, hs⟩ := h.exists_shape
  rw [fits_append_iff h0 hdepth fun d hd => (hgap d hd).weight_eq, List.cons_append, Fits,
    hs.depthChange_eq]
  exact and_congr_right fun hlt =>
    forall_congr' fun hnext => fits_append_iff hnext hlt hs.weight_rest rest

/-- Opening brackets do not fit if there are too many. -/
lemma not_fits_replicate {n : Nat} {depth : Int} (h0 : 0 ≤ depth) (hdepth : depth < 2 ^ 31)
    (hn : 2 ^ 31 ≤ depth + n) : ¬ Fits depth (List.replicate n '(') := by
  induction n generalizing depth with
  | zero => omega
  | succ n ih =>
      rintro ⟨hlt, hfits⟩
      have hone : weight '(' = 1 := rfl
      rw [hone] at hlt hfits
      exact ih (by omega) hlt (by omega) (hfits (by omega))

end Balance

/-- **Counting in 32 bits** gives the answer as long as the text fits. -/
theorem Scanned.leavesOpenWord?_eq {n : Nat} {s : Text} {ts : List Token} (h : Scanned n s ts) :
    ∀ depth : Int32, 0 ≤ depth.toInt → Fits depth.toInt s →
      leavesOpenWord? depth ts = some (leavesOpen depth.toInt ts) := by
  induction h with
  | done _ =>
      intro depth _ _
      rw [leavesOpenWord?, leavesOpen]
      simp only [Int32.lt_iff_toInt_lt, Int32.toInt_zero]
  | @token n gap text rest k ts hgap hlex _ _ ih =>
      intro depth h0 hfits
      obtain ⟨hhigh, hnext⟩ := (fits_lexeme_iff h0 depth.toInt_lt hgap hlex rest).mp hfits
      have hlow := neg_one_le_depthChange k
      rw [← toInt_depthChange] at hhigh hlow
      obtain ⟨next, hadd, hsum⟩ := addWord?_of_lt (by omega) hhigh
      rw [toInt_depthChange] at hsum
      rw [← hsum] at hnext
      simp only [leavesOpenWord?, leavesOpen, hadd, Option.bind_eq_bind, Option.bind_some,
        Int32.lt_iff_toInt_lt, Int32.toInt_zero, ← hsum]
      split
      case isTrue => rfl
      case isFalse hneg => exact ih next (by omega) (hnext (by omega))

/-- **What does not fit** is not counted. -/
theorem Scanned.leavesOpenWord?_eq_none {n : Nat} {s : Text} {ts : List Token}
    (h : Scanned n s ts) :
    ∀ depth : Int32, 0 ≤ depth.toInt → ¬ Fits depth.toInt s → leavesOpenWord? depth ts = none := by
  induction h with
  | @done n gap hgap =>
      intro depth h0 hfits
      have hpass := fits_append_iff h0 depth.toInt_lt (fun c hc => (hgap c hc).weight_eq) []
      rw [List.append_nil] at hpass
      exact absurd (hpass.mpr trivial) hfits
  | @token n gap text rest k ts hgap hlex _ _ ih =>
      intro depth h0 hfits
      rw [fits_lexeme_iff h0 depth.toInt_lt hgap hlex rest] at hfits
      have hlow := neg_one_le_depthChange k
      rw [← toInt_depthChange] at hfits hlow
      by_cases hhigh : depth.toInt + (Int32.ofInt k.depthChange).toInt < 2 ^ 31
      · obtain ⟨next, hadd, hsum⟩ := addWord?_of_lt (by omega) hhigh
        rw [← hsum] at hfits hhigh
        simp only [hhigh, true_and, Classical.not_imp] at hfits
        have hneg : ¬ next < 0 := by
          rw [Int32.lt_iff_toInt_lt, Int32.toInt_zero]
          omega
        simp only [leavesOpenWord?, hadd, Option.bind_eq_bind, Option.bind_some, if_neg hneg]
        exact ih next hfits.1 hfits.2
      · have hadd := addWord?_of_le (Int.not_lt.mp hhigh)
        simp only [leavesOpenWord?, hadd, Option.bind_eq_bind, Option.bind_none]

namespace Balance

lemma needsMoreWord?_eq {source : Text} (h : Fits 0 source) :
    needsMoreWord? source = some (needsMore source) :=
  (scanned_scanFrom 0 source).leavesOpenWord?_eq 0 (Int.le_refl 0) h

lemma needsMoreWord?_eq_none {source : Text} (h : ¬ Fits 0 source) : needsMoreWord? source = none :=
  (scanned_scanFrom 0 source).leavesOpenWord?_eq_none 0 (Int.le_refl 0) h

/-- An entry of fewer than `2 ^ 31` bytes is finished or not: its brackets can be counted. -/
lemma acceptsWord?_eq {entry : Text} (h : byteLength entry < 2 ^ 31) :
    acceptsWord? entry = some (accepts entry) := by
  have hchars := length_le_byteLength entry
  rw [acceptsWord?, accepts, needsMoreWord?_eq (fits_of_length (by omega))]
  cases (Command.parse? entry).isSome <;> rfl

/-- **Balance of brackets.**  On a source of less than `2 ^ 31` bytes counting in 32 bits gives the
    answer.  Brackets are left open exactly if no beginning of the source has more closing brackets
    than opening ones, and the whole source has fewer.  After a beginning with more closing ones
    nothing that follows opens the source again, however long it is. -/
theorem needsMore_iff_level (source : Text) (hlen : byteLength source < 2 ^ 31) :
    needsMoreWord? source = some (needsMore source) ∧
      (needsMore source = true ↔ (∀ p, p <+: source → 0 ≤ level p) ∧ 0 < level source) ∧
      ∀ p, p <+: source → level p < 0 → ∀ more,
        needsMoreWord? (source ++ more) = some false ∧ needsMore (source ++ more) = false := by
  have hchars := length_le_byteLength source
  refine ⟨needsMoreWord?_eq (fits_of_length (by omega)), ?_, ?_⟩
  · rw [needsMore_iff_unclosed, Unclosed]
    simp only [Int.zero_add]
  · rintro p ⟨rest, rfl⟩ hneg more
    rw [byteLength_append] at hlen
    have hp := length_le_byteLength p
    have hfits : Fits 0 (p ++ (rest ++ more)) :=
      fits_append (Int.le_refl 0) (by omega) fun _ => by omega
    have hclosed : needsMore (p ++ (rest ++ more)) = false := by
      rw [Bool.eq_false_iff, Ne, needsMore_iff_unclosed]
      rintro ⟨hall, -⟩
      have hfirst := hall p (List.prefix_append p _)
      omega
    rw [List.append_assoc]
    exact ⟨by rw [needsMoreWord?_eq hfits, hclosed], hclosed⟩

/-- A function goes on as long as its brace is open, and after a stray bracket nothing does. -/
theorem needsMore_iff_level_stray :
    (byteLength "let f = fn(x) \x7b".toList < 2 ^ 31 ∧
        needsMoreWord? "let f = fn(x) \x7b".toList = some true) ∧
      byteLength "f) (".toList < 2 ^ 31 ∧ needsMoreWord? "f) (\x7b\x7b".toList = some false := by
  obtain ⟨hword, hiff, -⟩ := needsMore_iff_level "let f = fn(x) \x7b".toList (by decide)
  obtain ⟨-, -, hstray⟩ := needsMore_iff_level "f) (".toList (by decide)
  have hopen : needsMore "let f = fn(x) \x7b".toList = true := by
    have hinits : ∀ p ∈ "let f = fn(x) \x7b".toList.inits, 0 ≤ level p := by decide
    exact hiff.mpr ⟨fun p hp => hinits p ((List.mem_inits p _).mpr hp), by decide⟩
  refine ⟨⟨by decide, by rw [hword, hopen]⟩, by decide, ?_⟩
  exact (hstray "f)".toList (by decide) (by decide) "\x7b\x7b".toList).1

end Balance

end MonkeyTokens
