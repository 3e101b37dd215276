import MonkeyTokens.Text.Blank
import Mathlib.Data.List.DropRight
import Mathlib.Tactic.Lemma

/-!
# What trimming removes

A text is the blank characters in front, what is left when it is trimmed, and the blank characters
behind.

* `Text.Blank`, `Text.Trimmed` — nothing but blank characters, and none of them at either end;
* `Text.leading`, `Text.trailing` — what is removed, and `Text.leading_append_trim_append` — nothing
  else is;
* **`Text.trim_eq_iff`** — what is left is the one trimmed text with only blank characters around
  it, so trimming twice is trimming once (`Text.trim_trim`).
-/

namespace MonkeyTokens.Text

/-- All characters of the text are blank. -/
def Blank (t : Text) : Prop :=
  ∀ c ∈ t, isBlank c = true

instance : DecidablePred Blank := fun t =>
  List.decidableBAll (fun c => isBlank c = true) t

/-- The text neither starts nor ends with a blank character. -/
structure Trimmed (t : Text) : Prop where
  first : ∀ c ∈ t.head?, isBlank c = false
  last : ∀ c ∈ t.getLast?, isBlank c = false

/-- The blank characters in front. -/
def leading (t : Text) : Text :=
  t.takeWhile isBlank

/-- The blank characters behind.  Those of a text that has no others all stand in front. -/
def trailing (t : Text) : Text :=
  (trimStart t).rtakeWhile isBlank

variable {t u p q : Text}

lemma blank_nil : Blank [] := by
  simp [Blank]

lemma Blank.append (hp : Blank p) (hq : Blank q) : Blank (p ++ q) := by
  intro c hc
  rcases List.mem_append.mp hc with hc | hc
  · exact hp c hc
  · exact hq c hc

lemma blank_leading (t : Text) : Blank (leading t) :=
  fun _ hc => List.mem_takeWhile_imp hc

lemma blank_trailing (t : Text) : Blank (trailing t) :=
  fun _ hc => List.mem_rtakeWhile_imp hc

/-! ## One end -/

lemma trimStart_append (hp : Blank p) (hu : ∀ c ∈ u.head?, isBlank c = false) :
    trimStart (p ++ u) = u := by
  rw [trimStart, List.dropWhile_append_of_pos hp]
  cases u with
  | nil => rfl
  | cons c u => rw [List.dropWhile_cons_of_neg (by simp [hu c rfl])]

lemma trimEnd_append (hu : ∀ c ∈ u.getLast?, isBlank c = false) (hq : Blank q) :
    trimEnd (u ++ q) = u := by
  have hstart : trimStart (q.reverse ++ u.reverse) = u.reverse := by
    refine trimStart_append (fun c hc => hq c (List.mem_reverse.mp hc)) ?_
    rwa [List.head?_reverse]
  show (trimStart (u ++ q).reverse).reverse = u
  rw [List.reverse_append, hstart, List.reverse_reverse]

lemma head?_trimStart (t : Text) : ∀ c ∈ (trimStart t).head?, isBlank c = false := by
  intro c hc
  have hnot := List.head?_dropWhile_not isBlank t
  rw [← trimStart, hc] at hnot
  simpa using hnot

lemma getLast?_trimEnd (t : Text) : ∀ c ∈ (trimEnd t).getLast?, isBlank c = false := by
  intro c hc
  refine head?_trimStart t.reverse c ?_
  rwa [← List.getLast?_reverse]

/-! ## Both ends -/

/-- **Nothing but blank characters at the ends is removed.** -/
theorem leading_append_trim_append (t : Text) : leading t ++ trim t ++ trailing t = t := by
  have hend : trim t ++ trailing t = trimStart t :=
    List.rdropWhile_append_rtakeWhile
  rw [List.append_assoc, hend]
  exact List.takeWhile_append_dropWhile

lemma trimmed_trim (t : Text) : Trimmed (trim t) := by
  refine ⟨fun c hc => ?_, getLast?_trimEnd (trimStart t)⟩
  obtain ⟨more, hmore⟩ : trim t <+: trimStart t := List.rdropWhile_prefix isBlank _
  obtain ⟨rest, hrest⟩ := List.head?_eq_some_iff.mp hc
  refine head?_trimStart t c ?_
  rw [← hmore, hrest]
  rfl

lemma trim_append (hp : Blank p) (hu : Trimmed u) (hq : Blank q) : trim (p ++ u ++ q) = u := by
  cases u with
  | nil =>
      have hall : trimStart (p ++ q ++ []) = [] := trimStart_append (hp.append hq) (by simp)
      rw [List.append_nil] at hall ⊢
      rw [trim, hall]
      rfl
  | cons c u =>
      have hstart : trimStart (p ++ (c :: u ++ q)) = c :: u ++ q := trimStart_append hp hu.first
      rw [trim, List.append_assoc, hstart, trimEnd_append hu.last hq]

/-- **What is left of a text** is the trimmed text that has only blank characters around it. -/
theorem trim_eq_iff : trim t = u ↔ Trimmed u ∧ ∃ p q, Blank p ∧ Blank q ∧ t = p ++ u ++ q := by
  constructor
  · rintro rfl
    exact ⟨trimmed_trim t, leading t, trailing t, blank_leading t, blank_trailing t,
      (leading_append_trim_append t).symm⟩
  · rintro ⟨hu, p, q, hp, hq, rfl⟩
    exact trim_append hp hu hq

lemma Trimmed.trim_eq (h : Trimmed t) : trim t = t :=
  trim_eq_iff.mpr ⟨h, [], [], blank_nil, blank_nil, by simp⟩

/-- Trimming twice is trimming once. -/
lemma trim_trim (t : Text) : trim (trim t) = trim t :=
  (trimmed_trim t).trim_eq

/-- Nothing is left exactly of blank texts. -/
lemma trim_eq_nil_iff : trim t = [] ↔ Blank t := by
  rw [trim_eq_iff]
  constructor
  · rintro ⟨-, p, q, hp, hq, rfl⟩
    rw [List.append_nil]
    exact hp.append hq
  · intro h
    exact ⟨⟨by simp, by simp⟩, t, [], h, blank_nil, by simp⟩

/-! ## Texts that do not end with a blank character -/

/-- Only the start of such a text is removed. -/
lemma leading_append_trim (h : ∀ c ∈ t.getLast?, isBlank c = false) : leading t ++ trim t = t := by
  have hall : leading t ++ trimStart t = t := List.takeWhile_append_dropWhile
  have hlast : ∀ c ∈ (trimStart t).getLast?, isBlank c = false := by
    intro c hc
    refine h c ?_
    rw [← hall, List.getLast?_append, hc]
    rfl
  have hend : trimEnd (trimStart t ++ []) = trimStart t := trimEnd_append hlast blank_nil
  rw [List.append_nil] at hend
  rw [trim, hend, hall]

lemma trim_ne_nil (h : ∀ c ∈ t.getLast?, isBlank c = false) (hne : t ≠ []) : trim t ≠ [] := by
  intro hnil
  have hblank := trim_eq_nil_iff.mp hnil _ (List.getLast_mem hne)
  rw [h _ (List.getLast?_eq_some_getLast hne)] at hblank
  cases hblank

end MonkeyTokens.Text
