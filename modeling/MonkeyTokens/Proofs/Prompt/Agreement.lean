import MonkeyTokens.Proofs.Prompt.Balance
import MonkeyTokens.Proofs.Prompt.Coloring
import MonkeyTokens.Proofs.Session.Action

/-!
# The parts of the prompt agree on an entry

Three parts of the prompt look at the text of an entry.  While it is typed it is highlighted, as a
call or as a source.  At the end of a line it is accepted, or it goes on.  Once it is accepted, what
is left of it when it is trimmed is executed or dumped.  The first two parts are given the text as
it was typed, the last one the trimmed text.

**Calls.**  A call is painted as a whole.  No source comes out that way, whatever escape characters
it has of its own, since no token is shown in the style of a call
(`Highlight.source_ne_colored`).

**Brackets.**  What is trimmed has tokens of its own if the scanner does not pass over it, and these
are no brackets.  So a text and the trimmed text have the same brackets at places that differ by
what was trimmed in front (`Balance.brackets_scan`), and every way to count them has the same
result for both, be it in 32 bits or without a bound.

**`prompt_agrees`** puts these together.
-/

namespace MonkeyTokens

open Ansi Grammar Text

/-! ## Calls and sources in color -/

/-- No kind has the style of a call. -/
lemma Kind.codes_ne_magenta (k : Kind) : k.style.codes ≠ Color.magenta.code := by
  cases k with
  | keyword w => cases w <;> decide
  | _ => simp only [Kind.style]; decide

/-- A lexeme that is shown without a style does not start with an escape character. -/
lemma Grammar.Lexeme.head?_ne_escape {k : Kind} {text : Text} (h : Lexeme k text)
    (hplain : k.style.codes = []) : text.head? ≠ some escape := by
  obtain ⟨c, t, rfl, hs⟩ := h.exists_shape
  intro hc
  obtain rfl : c = escape := by simpa using hc
  obtain rfl : k = .illegal := (shape_illegal_iff hs).mpr (by decide)
  exact absurd hplain (by decide)

namespace Highlight

/-- A painted token does not start as a call does. -/
lemma paint_append_ne {k : Kind} {text : Text} (h : Lexeme k text) (after rest : Text) :
    k.style.paint text ++ after ≠ sequence Color.magenta.code ++ rest := by
  intro heq
  unfold Style.paint at heq
  split at heq
  · next hplain =>
      have hhead := congrArg List.head? heq
      rw [List.head?_append_of_ne_nil _ h.ne_nil] at hhead
      exact h.head?_ne_escape hplain hhead
  · rw [wrap, List.append_assoc, List.append_assoc] at heq
    exact k.codes_ne_magenta
      (sequence_append_inj k.style.m_notMem_codes Color.magenta.m_notMem_code heq)

end Highlight

open Highlight

/-- **What a derivation paints** does not start as a call does: it starts with a space, with a
    painted token, or not at all. -/
lemma Scanned.paintFrom_ne {n : Nat} {s : Text} {ts : List Token} (h : Scanned n s ts)
    (rest : Text) : paintFrom n s ts ≠ sequence Color.magenta.code ++ rest := by
  have hspace : ∀ {gap : Text}, Gap gap → gap.head? ≠ some escape := by
    intro gap hgap hhead
    exact absurd (hgap escape (List.mem_of_head? hhead)) (by decide)
  cases h with
  | done hgap =>
      intro heq
      exact hspace hgap (congrArg List.head? heq)
  | @token _ gap text after k ts hgap hlex _ _ =>
      rw [paintFrom_token, List.append_assoc]
      cases gap with
      | nil => exact paint_append_ne hlex _ rest
      | cons c gap =>
          intro heq
          exact hspace hgap (congrArg List.head? heq)

namespace Highlight

/-- **No source is painted as a call.** -/
theorem source_ne_colored (s t : Text) : source s ≠ colored .magenta t := by
  have hpaint := (scanned_scanFrom 0 s).paintFrom_ne (t ++ sequence "39".toList)
  rwa [← List.append_assoc] at hpaint

/-- A line is painted as a whole exactly if it is a call. -/
lemma line_eq_colored_iff {t : Text} :
    line true t = colored .magenta t ↔ ∃ call, Command.parse? t = some call := by
  simp only [line, Bool.not_true, Bool.false_eq_true, if_false]
  cases Command.parse? t with
  | none => simpa using source_ne_colored t t
  | some call => simp

end Highlight

/-! ## Brackets -/

namespace Balance

/-- The tokens that change the depth. -/
def brackets (ts : List Token) : List Token :=
  ts.filter fun t => t.kind.depthChange ≠ 0

lemma brackets_strangers (n : Nat) (s : Text) : brackets (strangers n s) = [] := by
  refine List.filter_eq_nil_iff.mpr fun t ht => ?_
  rw [isIllegal_of_mem_strangers ht]
  decide

/-- **The brackets of a text** are those of the trimmed text, moved on. -/
theorem brackets_scan (s : Text) :
    brackets (scan s) = (brackets (scan s.trim)).map (Token.shift (byteLength (leading s))) := by
  have hfront := brackets_strangers 0 (leading s)
  have hback := brackets_strangers (byteLength (leading s) + byteLength s.trim) (trailing s)
  rw [brackets] at hfront hback
  rw [scan_trim s, brackets, List.filter_append, List.filter_append, hfront, hback, List.nil_append,
    List.append_nil, List.filter_map]
  rfl

/-! ## Counting -/

/-- Where the tokens stand does not count. -/
lemma leavesOpen_shift (n : Nat) (depth : Int) (ts : List Token) :
    leavesOpen depth (ts.map (Token.shift n)) = leavesOpen depth ts := by
  have hkind : ∀ t : Token, (t.shift n).kind = t.kind := fun _ => rfl
  induction ts generalizing depth with
  | nil => rfl
  | cons t ts ih => simp only [List.map_cons, leavesOpen, hkind, ih]

/-- Only brackets count. -/
lemma leavesOpen_brackets {depth : Int} (h0 : 0 ≤ depth) (ts : List Token) :
    leavesOpen depth (brackets ts) = leavesOpen depth ts := by
  induction ts generalizing depth with
  | nil => rfl
  | cons t ts ih =>
      by_cases ht : t.kind.depthChange = 0
      · have hpass : leavesOpen depth (t :: ts) = leavesOpen depth ts := by
          rw [leavesOpen, ht, Int.add_zero, if_neg (Int.not_lt.mpr h0)]
        rw [hpass, ← ih h0, brackets, List.filter_cons_of_neg (by simpa using ht), ← brackets]
      · rw [brackets, List.filter_cons_of_pos (by simpa using ht), ← brackets, leavesOpen,
          leavesOpen]
        split
        case isTrue => rfl
        case isFalse hneg => exact ih (Int.not_lt.mp hneg)

/-- **A text leaves a bracket open** exactly if the trimmed text does. -/
theorem needsMore_trim (s : Text) : needsMore s = needsMore s.trim := by
  have hopen := fun t => leavesOpen_brackets (Int.le_refl 0) (scan t)
  rw [needsMore, needsMore, ← hopen s, ← hopen s.trim, brackets_scan, leavesOpen_shift]

/-! In 32 bits the same counts, so what is trimmed makes no sum too large either. -/

lemma leavesOpenWord?_shift (n : Nat) (depth : Int32) (ts : List Token) :
    leavesOpenWord? depth (ts.map (Token.shift n)) = leavesOpenWord? depth ts := by
  have hkind : ∀ t : Token, (t.shift n).kind = t.kind := fun _ => rfl
  induction ts generalizing depth with
  | nil => rfl
  | cons t ts ih => simp only [List.map_cons, leavesOpenWord?, hkind, ih]

lemma leavesOpenWord?_brackets {depth : Int32} (h0 : ¬ depth < 0) (ts : List Token) :
    leavesOpenWord? depth (brackets ts) = leavesOpenWord? depth ts := by
  induction ts generalizing depth with
  | nil => rfl
  | cons t ts ih =>
      by_cases ht : t.kind.depthChange = 0
      · have hadd : addWord? depth (.ofInt 0) = some depth := by simp [addWord?]
        have hpass : leavesOpenWord? depth (t :: ts) = leavesOpenWord? depth ts := by
          rw [leavesOpenWord?, ht, hadd, Option.bind_eq_bind, Option.bind_some, if_neg h0]
        rw [hpass, ← ih h0, brackets, List.filter_cons_of_neg (by simpa using ht), ← brackets]
      · rw [brackets, List.filter_cons_of_pos (by simpa using ht), ← brackets, leavesOpenWord?,
          leavesOpenWord?]
        cases addWord? depth (.ofInt t.kind.depthChange) with
        | none => rfl
        | some next =>
            simp only [Option.bind_eq_bind, Option.bind_some]
            split
            case isTrue => rfl
            case isFalse hneg => exact ih hneg

theorem needsMoreWord?_trim (s : Text) : needsMoreWord? s = needsMoreWord? s.trim := by
  have hopen := fun t => leavesOpenWord?_brackets (by decide : ¬ (0 : Int32) < 0) (scan t)
  rw [needsMoreWord?, needsMoreWord?, ← hopen s, ← hopen s.trim, brackets_scan,
    leavesOpenWord?_shift]

/-! ## Finished entries -/

lemma accepts_iff {entry : Text} :
    accepts entry = true ↔
      (∃ call, Command.parse? entry = some call) ∨ needsMore entry = false := by
  rw [accepts, Bool.or_eq_true, Option.isSome_iff_exists, Bool.not_eq_true']

lemma acceptsWord?_iff {entry : Text} :
    acceptsWord? entry = some true ↔
      (∃ call, Command.parse? entry = some call) ∨ needsMoreWord? entry = some false := by
  unfold acceptsWord?
  cases Command.parse? entry with
  | none => simp
  | some call => simp

end Balance

/-! ## The parts of the prompt -/

lemma Entry.exists_action_eq_execute_iff {entry : Text} :
    (∃ call, action entry = .execute call) ↔ ∃ call, Command.parse? entry = some call := by
  simp only [action_eq_execute_iff, Command.parse?_trim]

open Balance

/-- **The parts of the prompt agree** on every entry.  The same call is read of an entry and of the
    trimmed entry, and both have the same brackets, so both or neither need more.  An entry is
    painted as a call exactly if it is executed, and accepted exactly if it is executed or what is
    left of it when it is trimmed needs nothing more.  What is dumped of an accepted entry needs
    nothing more. -/
theorem prompt_agrees (entry : Text) :
    (Command.parse? entry = Command.parse? entry.trim ∧
      brackets (scan entry) =
        (brackets (scan entry.trim)).map (Token.shift (byteLength (leading entry))) ∧
      needsMore entry = needsMore entry.trim ∧
      needsMoreWord? entry = needsMoreWord? entry.trim) ∧
    (Highlight.line true entry = colored .magenta entry ↔
      ∃ call, Entry.action entry = .execute call) ∧
    (accepts entry = true ↔
      (∃ call, Entry.action entry = .execute call) ∨ needsMore entry.trim = false) ∧
    (acceptsWord? entry = some true ↔
      (∃ call, Entry.action entry = .execute call) ∨ needsMoreWord? entry.trim = some false) ∧
    (∀ source, Entry.action entry = .dump source → source = entry.trim ∧
      (accepts entry = true → needsMore source = false) ∧
      (acceptsWord? entry = some true → needsMoreWord? source = some false)) ∧
    ∀ (ctx : Context) (con : Console),
      Entry.evaluate ctx entry con = (Entry.action entry).perform ctx con := by
  have hexecute := @Entry.exists_action_eq_execute_iff entry
  have haccepts := @accepts_iff entry
  have hword := @acceptsWord?_iff entry
  rw [needsMore_trim] at haccepts
  rw [needsMoreWord?_trim] at hword
  refine ⟨⟨(Command.parse?_trim entry).symm, brackets_scan entry, needsMore_trim entry,
    needsMoreWord?_trim entry⟩, ?_, ?_, ?_, ?_, fun ctx con => Entry.evaluate_eq ctx entry con⟩
  · rw [Highlight.line_eq_colored_iff, hexecute]
  · rw [haccepts, hexecute]
  · rw [hword, hexecute]
  · intro source hsource
    obtain ⟨rfl, -, hnone⟩ := Entry.action_eq_dump_iff.mp hsource
    -- a source is no call, so it was accepted for its brackets
    have hsome : ¬ ∃ call, Command.parse? entry = some call := by
      rw [Command.parse?_trim] at hnone
      simp [hnone]
    exact ⟨rfl, fun h => (haccepts.mp h).resolve_left hsome,
      fun h => (hword.mp h).resolve_left hsome⟩

/-- With a no-break space in front and an ideographic space behind, `f(` needs more and is not
    accepted, `(x)` is accepted and dumped, and `.q` is painted as a call and ends the session. -/
theorem prompt_agrees_wide :
    accepts "\u00A0f(\u3000".toList = false ∧
      accepts "\u00A0(x)\u3000".toList = true ∧
      Entry.action "\u00A0(x)\u3000".toList = .dump "(x)".toList ∧
      needsMore "(x)".toList = false ∧
      Entry.action "\u00A0.q\u3000".toList = .execute ⟨.exit, none⟩ ∧
      Highlight.line true "\u00A0.q\u3000".toList = colored .magenta "\u00A0.q\u3000".toList := by
  obtain ⟨-, -, hopen, -⟩ := prompt_agrees "\u00A0f(\u3000".toList
  obtain ⟨-, -, -, -, hdump, -⟩ := prompt_agrees "\u00A0(x)\u3000".toList
  obtain ⟨-, hcall, -⟩ := prompt_agrees "\u00A0.q\u3000".toList
  have haccepted : accepts "\u00A0(x)\u3000".toList = true := by decide +kernel
  have hsource : Entry.action "\u00A0(x)\u3000".toList = .dump "(x)".toList := by decide
  have hexit : Entry.action "\u00A0.q\u3000".toList = .execute ⟨.exit, none⟩ := by decide
  have hpart : Entry.action "\u00A0f(\u3000".toList = .dump "f(".toList := by decide
  have hmore : needsMore (trim "\u00A0f(\u3000".toList) = true := by decide +kernel
  have hrefused : accepts "\u00A0f(\u3000".toList = false := by
    rw [Bool.eq_false_iff, Ne, hopen, hpart, hmore]
    simp
  exact ⟨hrefused, haccepted, hsource, (hdump _ hsource).2.1 haccepted, hexit,
    hcall.mpr ⟨_, hexit⟩⟩

end MonkeyTokens
