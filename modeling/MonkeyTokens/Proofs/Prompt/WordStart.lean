import MonkeyTokens.Prompt.Completion
import MonkeyTokens.Proofs.Text.Slice

/-!
# Where the word at the cursor starts

The word at the cursor is taken to start one byte after the start of the last character that belongs
to no word.  Where that character is longer, this place is inside it, and no word can be cut out
there.

* `Completion.lastBreak?` — the last character that belongs to no word; `Completion.Narrow` — it has
  one byte, if there is one;
* `Completion.lastBreak_cases` — a text is a word, or it is cut at that character;
* `wordStart_of_split`, `isBoundary_wordStart_iff` — the place that is found, and when it is a
  boundary;
* **`completion_ok_iff`** — the prompt completes and hints after a narrow text, and fails after any
  other.
-/

namespace MonkeyTokens

open Text

namespace Completion

/-- The last character that belongs to no word. -/
def lastBreak? (before : Text) : Option Char :=
  (before.filter fun c => !isWordCharacter c).getLast?

/-- The last character that belongs to no word has one byte, if there is such a character. -/
def Narrow (before : Text) : Prop :=
  ∀ c ∈ lastBreak? before, c.utf8Size = 1

instance : DecidablePred Narrow := fun before =>
  Option.decidableForallMem (lastBreak? before)

/-! ## The last break -/

/-- A text is one word, or the word that it ends with follows its last break. -/
lemma lastBreak_cases (before : Text) :
    (lastBreak? before = none ∧ ∀ c ∈ before, isWordCharacter c = true) ∨
      ∃ past c word, before = past ++ c :: word ∧ lastBreak? before = some c ∧
        isWordCharacter c = false ∧ ∀ d ∈ word, isWordCharacter d = true := by
  rw [lastBreak?, List.getLast?_filter]
  cases h : before.reverse.find? fun c => !isWordCharacter c with
  | none => exact .inl ⟨rfl, by simpa using h⟩
  | some c =>
      obtain ⟨hc, word, past, hsplit, hword⟩ := List.find?_eq_some_iff_append.mp h
      have hbefore : before = past.reverse ++ c :: word.reverse := by
        simpa using congrArg List.reverse hsplit
      exact .inr ⟨past.reverse, c, word.reverse, hbefore, rfl, by simpa using hc,
        by simpa using hword⟩

/-- A word moves nothing. -/
lemma afterLastBreak_word {word : Text} (h : ∀ c ∈ word, isWordCharacter c = true)
    (offset found : Nat) : afterLastBreak offset found word = found := by
  induction word generalizing offset with
  | nil => rfl
  | cons c cs ih =>
      obtain ⟨hc, hcs⟩ := List.forall_mem_cons.mp h
      rw [afterLastBreak, if_pos hc, ih hcs]

/-- A break with a word behind it settles the place, whatever was found before. -/
lemma afterLastBreak_break {c : Char} {word : Text} (hc : isWordCharacter c = false)
    (hword : ∀ d ∈ word, isWordCharacter d = true) (past : Text) (offset found : Nat) :
    afterLastBreak offset found (past ++ c :: word) = offset + byteLength past + 1 := by
  induction past generalizing offset found with
  | nil => simp [afterLastBreak, hc, afterLastBreak_word hword]
  | cons d past ih =>
      rw [List.cons_append, afterLastBreak, ih, byteLength_cons]
      omega

/-! ## The place that is found -/

/-- Where a cursor stands, what is before it is looked through. -/
lemma wordStart_of_split (before after : Text) :
    wordStart (before ++ after) (byteLength before) = .ok (afterLastBreak 0 0 before) := by
  rw [wordStart, slice_prefix]
  rfl

/-- The place is not after the cursor. -/
lemma afterLastBreak_le (before : Text) : afterLastBreak 0 0 before ≤ byteLength before := by
  rcases lastBreak_cases before with ⟨-, hword⟩ | ⟨past, c, word, rfl, -, hc, hword⟩
  · rw [afterLastBreak_word hword]
    exact Nat.zero_le _
  · have hpos := c.utf8Size_pos
    rw [afterLastBreak_break hc hword, byteLength_append, byteLength_cons]
    omega

/-- **The place is a boundary** exactly after a narrow text. -/
theorem isBoundary_wordStart_iff (before after : Text) :
    IsBoundary (before ++ after) (afterLastBreak 0 0 before) ↔ Narrow before := by
  rcases lastBreak_cases before with ⟨hnone, hword⟩ | ⟨past, c, word, rfl, hsome, hc, hword⟩
  · rw [afterLastBreak_word hword, Narrow, hnone]
    constructor
    · intro _ c hc
      cases hc
    · intro _
      exact ⟨[], before ++ after, rfl, rfl⟩
  · rw [afterLastBreak_break hc hword, Narrow, hsome, Nat.zero_add, List.append_assoc,
      List.cons_append, isBoundary_succ_iff]
    simp

/-- There is a slice from the place to the cursor exactly after a narrow text. -/
lemma exists_word_iff (before after : Text) :
    (∃ word, (before ++ after).slice (afterLastBreak 0 0 before) (byteLength before) = .ok word) ↔
      Narrow before := by
  rw [exists_slice_iff, isBoundary_wordStart_iff]
  constructor
  · exact fun h => h.1
  · exact fun h => ⟨h, ⟨before, after, rfl, rfl⟩, afterLastBreak_le before⟩

/-! ## Completing and hinting -/

/-- What goes on from a slice and cannot fail itself succeeds exactly where the slice does. -/
lemma exists_bind_ok_iff {α β γ : Type} {x : Except SliceFault α} {f : α → Except SliceFault γ}
    {g : β → γ} (hf : ∀ a, ∃ b, f a = .ok (g b)) :
    (∃ b, (x >>= f) = .ok (g b)) ↔ ∃ a, x = .ok a := by
  cases x with
  | ok a => exact ⟨fun _ => ⟨a, rfl⟩, fun _ => hf a⟩
  | error fault =>
      constructor
      · rintro ⟨b, h⟩
        cases h
      · rintro ⟨a, h⟩
        cases h

lemma exists_complete_iff (before after : Text) :
    (∃ offers, complete (before ++ after) (byteLength before) =
        .ok (byteLength before, offers)) ↔ Narrow before := by
  rw [← exists_word_iff before after, complete, wordStart_of_split]
  show (∃ offers, ((before ++ after).slice _ _ >>= _) = _) ↔ _
  exact exists_bind_ok_iff fun word => ⟨_, rfl⟩

lemma exists_hint_iff (before after : Text) :
    (∃ shown, hint (before ++ after) (byteLength before) = .ok shown) ↔
      byteLength before < byteLength (before ++ after) ∨ Narrow before := by
  rw [hint]
  by_cases hlt : byteLength before < byteLength (before ++ after)
  · rw [if_pos hlt]
    exact ⟨fun _ => .inl hlt, fun _ => ⟨none, rfl⟩⟩
  · -- the cursor is at the end of the line
    have hend : byteLength (before ++ after) = byteLength before := by
      rw [byteLength_append] at hlt ⊢
      omega
    rw [if_neg hlt, wordStart_of_split, or_iff_right hlt, ← exists_word_iff before after, hend]
    show (∃ shown, ((before ++ after).slice _ _ >>= _) = _) ↔ _
    refine exists_bind_ok_iff (g := fun shown => shown) fun word => ?_
    by_cases hshort : byteLength word < 2
    · exact ⟨none, if_pos hshort⟩
    · exact ⟨_, if_neg hshort⟩

/-- **Where completing and hinting succeed.**  At every place between two characters of a line a
    start of the word is found, and not after the cursor.  It is a boundary of the line exactly if
    the last character before the cursor that belongs to no word has one byte.  Completing succeeds
    exactly then; so does hinting, which looks at nothing before the end of the line. -/
theorem completion_ok_iff {line : Text} {pos : Nat} (h : IsBoundary line pos) :
    ∃ before start, line.slice 0 pos = .ok before ∧ wordStart line pos = .ok start ∧
      start ≤ pos ∧ (IsBoundary line start ↔ Narrow before) ∧
      ((∃ offers, complete line pos = .ok (pos, offers)) ↔ Narrow before) ∧
      ((∃ shown, hint line pos = .ok shown) ↔ pos < line.byteLength ∨ Narrow before) := by
  obtain ⟨before, after, rfl, rfl⟩ := h
  exact ⟨before, _, slice_prefix before after, wordStart_of_split before after,
    afterLastBreak_le before, isBoundary_wordStart_iff before after,
    exists_complete_iff before after, exists_hint_iff before after⟩

/-- After `λ(f` the break is the parenthesis, and the offers are there; after `λ` alone the start of
    the word is inside the letter, and neither offers nor a hint can be worked out. -/
theorem completion_ok_iff_wide :
    (IsBoundary "λ(f".toList 4 ∧ ∃ offers, complete "λ(f".toList 4 = .ok (4, offers)) ∧
      IsBoundary "λ".toList 2 ∧ wordStart "λ".toList 2 = .ok 1 ∧ ¬ IsBoundary "λ".toList 1 ∧
      (¬ ∃ offers, complete "λ".toList 2 = .ok (2, offers)) ∧
      ¬ ∃ shown, hint "λ".toList 2 = .ok shown := by
  have hopen : IsBoundary "λ(f".toList 4 := ⟨"λ(f".toList, [], by decide, by decide⟩
  have hwide : IsBoundary "λ".toList 2 := ⟨"λ".toList, [], by decide, by decide⟩
  refine ⟨⟨hopen, ?_⟩, hwide, ?_⟩
  · obtain ⟨before, start, hbefore, -, -, -, hcomplete, -⟩ := completion_ok_iff hopen
    obtain rfl : "λ(f".toList = before := Except.ok.inj hbefore
    exact hcomplete.mpr (by decide)
  · obtain ⟨before, start, hbefore, hstart, -, hbound, hcomplete, hhint⟩ := completion_ok_iff hwide
    obtain rfl : "λ".toList = before := Except.ok.inj hbefore
    obtain rfl : 1 = start := Except.ok.inj hstart
    have hno : ¬ Narrow "λ".toList := by decide
    exact ⟨rfl, hno ∘ hbound.mp, hno ∘ hcomplete.mp,
      fun h => (hhint.mp h).elim (by decide) hno⟩

/-- The start of the word is not always a boundary, and the prompt does not always complete and
    hint: not after `λ`. -/
theorem not_forall_completion_ok :
    ¬ ∀ (line : Text) (pos : Nat), IsBoundary line pos →
      (∃ start, wordStart line pos = .ok start ∧ IsBoundary line start ∧ start ≤ pos) ∧
        (∃ result, complete line pos = .ok result) ∧ ∃ shown, hint line pos = .ok shown := by
  intro h
  obtain ⟨-, ⟨result, hresult⟩, -⟩ := h "λ".toList 2 ⟨"λ".toList, [], by decide, by decide⟩
  have hfault : complete "λ".toList 2 = .error .notABoundary := by rfl
  rw [hfault] at hresult
  cases hresult

end Completion

end MonkeyTokens
