import MonkeyTokens.Text.Ansi
import Mathlib.Data.List.Basic

/-!
# Stripping escape sequences

Stripping takes back what painting puts around a text, wherever the painted text stands.

* `Ansi.escape` — the character that starts a sequence; `Ansi.escape_notMem_strip` — none is left;
* `Ansi.strip_append` — a text without that character stays as it is;
* `Ansi.sequence_append_inj` — a text that starts with a sequence tells its codes;
* **`Ansi.strip_wrap`**, **`Ansi.strip_paint`** — of a colored text the text itself is left;
  `Ansi.wrap_injective` — two texts wrapped alike are still two.
-/

namespace MonkeyTokens.Ansi

/-- The character that starts an escape sequence. -/
def escape : Char := '\x1b'

lemma strip_escape (t : Text) : strip (escape :: t) = stripSequence t := by
  rw [strip]
  exact if_pos rfl

lemma strip_cons {c : Char} (hc : escape ≠ c) (t : Text) : strip (c :: t) = c :: strip t := by
  rw [strip]
  exact if_neg (Ne.symm hc)

/-! ## What is left -/

/-- Inside a sequence and outside, no escape character is kept. -/
lemma escape_notMem_strip_and (t : Text) : escape ∉ strip t ∧ escape ∉ stripSequence t := by
  induction t with
  | nil => simp [strip, stripSequence]
  | cons c cs ih =>
      obtain ⟨hstrip, hsequence⟩ := ih
      refine ⟨?_, ?_⟩
      · by_cases hc : escape = c
        · rwa [← hc, strip_escape]
        · rw [strip_cons hc]
          exact List.not_mem_cons_of_ne_of_not_mem hc hstrip
      · rw [stripSequence]
        split
        · exact hstrip
        · exact hsequence

lemma escape_notMem_strip (t : Text) : escape ∉ strip t :=
  (escape_notMem_strip_and t).1

/-- A text without escape characters stays as it is. -/
lemma strip_append {a : Text} (h : escape ∉ a) (b : Text) : strip (a ++ b) = a ++ strip b := by
  induction a with
  | nil => rfl
  | cons c cs ih =>
      obtain ⟨hc, hcs⟩ := List.ne_and_not_mem_of_not_mem_cons h
      rw [List.cons_append, strip_cons hc, ih hcs, List.cons_append]

/-! ## What is taken back -/

lemma stripSequence_append {codes : Text} (h : 'm' ∉ codes) (b : Text) :
    stripSequence (codes ++ 'm' :: b) = strip b := by
  induction codes with
  | nil => rw [List.nil_append, stripSequence, if_pos rfl]
  | cons c cs ih =>
      obtain ⟨hc, hcs⟩ := List.ne_and_not_mem_of_not_mem_cons h
      rw [List.cons_append, stripSequence, if_neg (Ne.symm hc), ih hcs]

lemma strip_sequence {codes : Text} (h : 'm' ∉ codes) (b : Text) :
    strip (sequence codes ++ b) = strip b := by
  have hcodes : 'm' ∉ '[' :: codes := by simp [h]
  have hsequence : sequence codes ++ b = escape :: ('[' :: codes ++ 'm' :: b) := by
    simp [sequence, escape]
  rw [hsequence, strip_escape, stripSequence_append hcodes]

/-- A sequence goes on to its first `m`, so no text starts with two different ones. -/
lemma sequence_append_inj {a b s t : Text} (ha : 'm' ∉ a) (hb : 'm' ∉ b)
    (h : sequence a ++ s = sequence b ++ t) : a = b := by
  have hread : ∀ {codes : Text}, 'm' ∉ codes → ∀ more,
      ((sequence codes ++ more).drop 2).takeWhile (· ≠ 'm') = codes := by
    intro codes hcodes more
    have hall : ∀ c ∈ codes, decide (c ≠ 'm') = true := fun c hc =>
      decide_eq_true (ne_of_mem_of_not_mem hc hcodes)
    have hdrop : (sequence codes ++ more).drop 2 = codes ++ 'm' :: more := by simp [sequence]
    rw [hdrop, List.takeWhile_append_of_pos hall, List.takeWhile_cons_of_neg (by simp),
      List.append_nil]
  rw [← hread ha s, h, hread hb t]

/-- **Of a wrapped text** the text itself is left. -/
theorem strip_wrap {on off t : Text} (hon : 'm' ∉ on) (hoff : 'm' ∉ off) (ht : escape ∉ t)
    (b : Text) : strip (wrap on off t ++ b) = t ++ strip b := by
  rw [wrap, List.append_assoc, List.append_assoc, strip_sequence hon, strip_append ht,
    strip_sequence hoff]

/-- Texts that are wrapped alike and come out the same were the same. -/
lemma wrap_injective (on off : Text) : Function.Injective (wrap on off) := by
  intro s t h
  rw [wrap, wrap, List.append_assoc, List.append_assoc] at h
  exact List.append_cancel_right (List.append_cancel_left h)

lemma Color.m_notMem_code (color : Color) : 'm' ∉ color.code := by
  cases color <;> decide

lemma Weight.m_notMem_code (weight : Weight) : 'm' ∉ weight.code := by
  cases weight <;> decide

lemma Style.m_notMem_codes (style : Style) : 'm' ∉ style.codes := by
  obtain ⟨color, weight⟩ := style
  cases color with
  | none =>
      cases weight with
      | none => simp [codes]
      | some weight => exact weight.m_notMem_code
  | some color =>
      cases weight with
      | none => exact color.m_notMem_code
      | some weight => simp [codes, color.m_notMem_code, weight.m_notMem_code]

/-- **Of a painted text** the text itself is left. -/
theorem strip_paint (style : Style) {t : Text} (ht : escape ∉ t) (b : Text) :
    strip (style.paint t ++ b) = t ++ strip b := by
  unfold Style.paint
  split
  · exact strip_append ht b
  · exact strip_wrap style.m_notMem_codes (by decide) ht b

end MonkeyTokens.Ansi
