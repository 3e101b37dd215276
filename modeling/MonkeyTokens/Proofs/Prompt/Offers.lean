import MonkeyTokens.Proofs.Prompt.WordStart
import MonkeyTokens.Proofs.Text.Ansi

/-!
# What is completed

The word at the cursor is what all offers go on from.  This file says which word that is without
looking for its start, and then what is offered for it.

**The word at the cursor.**  `Completion.LastWord` asks for the longest piece at the end of a text
that has word characters only.  In front of it there is nothing or a break (`lastWord_iff`).  After
a narrow text its start is the place that the prompt finds, so it is also the word that the prompt
cuts out (`LastWord.slice_eq`).

**The offers.**  `Completion.Completes` lists the words that have the typed one as a proper prefix.
Both a completion and a hint are these offers, or none at all (`LastWord.complete_eq`,
`LastWord.hint_eq`).

**When an offer was taken.**  An offer has word characters only, so the break stays where it was,
and the word at the cursor becomes the whole word (`LastWord.taken`).  No word on offer is a proper
prefix of another, and nothing is left to be offered (`LastWord.nothing_left`).

**`completion_follows_words`** puts these together.
-/

namespace MonkeyTokens

open Text

namespace Completion

/-! ## The word at the cursor -/

/-- The word that a text ends with: of all pieces at its end that have word characters only, the
    longest. -/
structure LastWord (before word : Text) : Prop where
  suffix : word <:+ before
  isWord : ∀ c ∈ word, isWordCharacter c = true
  longest : ∀ piece, piece <:+ before → (∀ c ∈ piece, isWordCharacter c = true) → piece <:+ word

/-- There is one such word. -/
lemma LastWord.unique {before word other : Text} (h : LastWord before word)
    (hother : LastWord before other) : word = other :=
  (hother.longest word h.suffix h.isWord).eq_of_length_le
    (h.longest other hother.suffix hother.isWord).length_le

/-- **In front of the last word** there is nothing, or a break. -/
lemma lastWord_iff {before word : Text} :
    LastWord before word ↔ ∃ past, before = past ++ word ∧
      (∀ c ∈ past.getLast?, isWordCharacter c = false) ∧ ∀ c ∈ word, isWordCharacter c = true := by
  constructor
  · intro h
    obtain ⟨past, rfl⟩ := h.suffix
    refine ⟨past, rfl, fun c hc => ?_, h.isWord⟩
    obtain ⟨front, rfl⟩ := List.getLast?_eq_some_iff.mp hc
    by_contra hword
    -- with one character more the word would be longer
    have hlonger : c :: word <:+ word :=
      h.longest (c :: word) ⟨front, by simp⟩
        (List.forall_mem_cons.mpr ⟨by simpa using hword, h.isWord⟩)
    have hlength := hlonger.length_le
    rw [List.length_cons] at hlength
    omega
  · rintro ⟨past, rfl, hpast, hword⟩
    refine ⟨List.suffix_append past word, hword, fun piece hpiece hall => ?_⟩
    rcases List.suffix_or_suffix_of_suffix hpiece (List.suffix_append past word) with
      h | ⟨more, rfl⟩
    · exact h
    · have hmore : more <:+ past := List.suffix_append_self_iff.mp hpiece
      rcases List.eq_nil_or_concat' more with rfl | ⟨front, c, rfl⟩
      · exact List.suffix_rfl
      · -- a longer piece would go over the break
        have hlast : past.getLast? = some c :=
          List.singleton_suffix_iff_getLast?_eq_some.mp
            ((List.suffix_append front [c]).trans hmore)
        have hbreak := hpast c hlast
        rw [hall c (by simp)] at hbreak
        cases hbreak

/-- Every text ends with a word, which may be empty. -/
lemma exists_lastWord (before : Text) : ∃ word, LastWord before word := by
  rcases lastBreak_cases before with ⟨-, hword⟩ | ⟨past, c, word, rfl, -, hc, hword⟩
  · exact ⟨before, lastWord_iff.mpr ⟨[], rfl, by simp, hword⟩⟩
  · exact ⟨word, lastWord_iff.mpr ⟨past ++ [c], by simp, by simpa using hc, hword⟩⟩

/-- **More characters of a word** make the word longer. -/
lemma LastWord.append {before word more : Text} (h : LastWord before word)
    (hmore : ∀ c ∈ more, isWordCharacter c = true) :
    LastWord (before ++ more) (word ++ more) := by
  obtain ⟨past, rfl, hpast, hword⟩ := lastWord_iff.mp h
  exact lastWord_iff.mpr ⟨past, List.append_assoc past word more, hpast,
    List.forall_mem_append.mpr ⟨hword, hmore⟩⟩

/-- They do not move the last break. -/
lemma lastBreak?_append {more : Text} (h : ∀ c ∈ more, isWordCharacter c = true)
    (before : Text) : lastBreak? (before ++ more) = lastBreak? before := by
  have hnone : more.filter (fun c => !isWordCharacter c) = [] :=
    List.filter_eq_nil_iff.mpr fun c hc => by simp [h c hc]
  rw [lastBreak?, List.filter_append, hnone, List.append_nil, lastBreak?]

lemma Narrow.append {before more : Text} (h : Narrow before)
    (hmore : ∀ c ∈ more, isWordCharacter c = true) : Narrow (before ++ more) := by
  rwa [Narrow, lastBreak?_append hmore]

/-- After a narrow text the place that is found is where the last word starts. -/
lemma LastWord.exists_past {before word : Text} (h : LastWord before word)
    (hnarrow : Narrow before) :
    ∃ past, before = past ++ word ∧ afterLastBreak 0 0 before = byteLength past := by
  obtain ⟨past, rfl, hpast, hword⟩ := lastWord_iff.mp h
  refine ⟨past, rfl, ?_⟩
  rcases List.eq_nil_or_concat' past with rfl | ⟨front, c, rfl⟩
  · exact afterLastBreak_word hword 0 0
  · have hc : isWordCharacter c = false := hpast c (by simp)
    have hlast : lastBreak? (front ++ [c] ++ word) = some c := by
      rw [lastBreak?_append hword, lastBreak?, List.filter_append]
      simp [hc]
    have hone : c.utf8Size = 1 := hnarrow c hlast
    rw [List.append_assoc, List.singleton_append, afterLastBreak_break hc hword]
    simp [hone]

/-- **The last word is cut out** at the cursor after a narrow text. -/
lemma LastWord.slice_eq {before word : Text} (h : LastWord before word) (hnarrow : Narrow before)
    (after : Text) :
    (before ++ after).slice (afterLastBreak 0 0 before) (byteLength before) = .ok word := by
  obtain ⟨past, rfl, hstart⟩ := h.exists_past hnarrow
  rw [hstart, byteLength_append, slice_append]

/-! ## The offers -/

/-- What is to be offered for the start of a word: the words that go on from it, in the order of
    the list and none twice, each with what is missing. -/
structure Completes (start : Text) (offered : List Offer) : Prop where
  ordered : (offered.map Offer.display).Sublist words
  nodup : (offered.map Offer.display).Nodup
  mem_iff : ∀ word, word ∈ offered.map Offer.display ↔
    word ∈ words ∧ start <+: word ∧ start ≠ word
  missing : ∀ offer ∈ offered, start ++ offer.replacement = offer.display

/-- The words are different. -/
lemma nodup_words : words.Nodup := by
  decide

/-- They have word characters only. -/
lemma isWordCharacter_of_mem_words {word : Text} (h : word ∈ words) {c : Char} (hc : c ∈ word) :
    isWordCharacter c = true := by
  have hall : (words.all fun word => word.all isWordCharacter) = true := by decide
  exact List.all_eq_true.mp (List.all_eq_true.mp hall word h) c hc

/-- No word goes on from another. -/
lemma eq_of_prefix_of_mem_words :
    ∀ start ∈ words, ∀ word ∈ words, start <+: word → start = word := by
  decide

/-- **Candidates** are the words that have the start as a proper prefix. -/
lemma mem_candidates_iff {start word : Text} :
    word ∈ candidates start ↔ word ∈ words ∧ start <+: word ∧ start ≠ word := by
  rw [candidates, List.mem_filter, Bool.and_eq_true, List.isPrefixOf_iff_prefix,
    decide_eq_true_iff]
  refine and_congr_right fun _ => and_congr_right fun hprefix => ?_
  obtain ⟨more, rfl⟩ := hprefix
  rw [byteLength_append, Nat.lt_add_right_iff_pos, Nat.pos_iff_ne_zero, Ne,
    byteLength_eq_zero_iff, Ne, List.self_eq_append_right]

lemma map_display_offers (start : Text) : (offers start).map Offer.display = candidates start := by
  rw [offers, List.map_map]
  exact List.map_id _

/-- **What is offered** is what is to be offered. -/
theorem completes_offers (start : Text) : Completes start (offers start) := by
  have hsublist : (candidates start).Sublist words := List.filter_sublist
  refine ⟨?_, ?_, fun word => ?_, fun offer hoffer => ?_⟩
  · rwa [map_display_offers]
  · rw [map_display_offers]
    exact nodup_words.sublist hsublist
  · rw [map_display_offers, mem_candidates_iff]
  · obtain ⟨word, hword, rfl⟩ := List.mem_map.mp hoffer
    obtain ⟨-, ⟨more, rfl⟩, -⟩ := mem_candidates_iff.mp hword
    exact congrArg (start ++ ·) List.drop_left

/-- **For a whole word** nothing is offered. -/
theorem offers_of_mem_words {word : Text} (h : word ∈ words) : offers word = [] := by
  have hnone : candidates word = [] := by
    refine List.eq_nil_iff_forall_not_mem.mpr fun other hother => ?_
    obtain ⟨hmem, hprefix, hne⟩ := mem_candidates_iff.mp hother
    exact hne (eq_of_prefix_of_mem_words word h other hmem hprefix)
  rw [offers, hnone, List.map_nil]

/-! ## Completions and hints -/

/-- **A completion** is made of the offers for the last word. -/
lemma LastWord.complete_eq {before word : Text} (h : LastWord before word)
    (hnarrow : Narrow before) (after : Text) :
    complete (before ++ after) (byteLength before) =
      .ok (byteLength before, if word = [] then [] else offers word) := by
  rw [complete, wordStart_of_split]
  show ((before ++ after).slice _ _ >>= _) = _
  rw [h.slice_eq hnarrow]
  rfl

/-- Before the end of a line there is no hint. -/
lemma hint_of_lt {line : Text} {pos : Nat} (h : pos < byteLength line) :
    hint line pos = .ok none := by
  rw [hint, if_pos h]
  rfl

/-- **A hint** is the first of them, behind a line that ends with a word of two bytes at least. -/
lemma LastWord.hint_eq {before word : Text} (h : LastWord before word) (hnarrow : Narrow before) :
    hint before (byteLength before) =
      .ok (if byteLength word < 2 then none
        else (offers word).head?.map fun offer => Ansi.dimmed offer.replacement) := by
  have hstart := wordStart_of_split before []
  have hslice := h.slice_eq hnarrow []
  rw [List.append_nil] at hstart hslice
  rw [hint, if_neg (Nat.lt_irrefl _), hstart]
  show (before.slice _ _ >>= _) = _
  rw [hslice]
  show (if byteLength word < 2 then _ else _) = _
  split
  · rfl
  · rfl

/-- **An offer that was taken** makes the last word whole, and the break stays narrow. -/
lemma LastWord.taken {before word : Text} (h : LastWord before word) (hnarrow : Narrow before)
    {offer : Offer} (hoffer : offer ∈ offers word) :
    offer.display ∈ words ∧ LastWord (before ++ offer.replacement) offer.display ∧
      Narrow (before ++ offer.replacement) := by
  have hcompletes := completes_offers word
  have hmissing := hcompletes.missing offer hoffer
  obtain ⟨hmem, -, -⟩ := (hcompletes.mem_iff offer.display).mp (List.mem_map_of_mem hoffer)
  have hmore : ∀ c ∈ offer.replacement, isWordCharacter c = true := fun c hc =>
    isWordCharacter_of_mem_words hmem (hmissing ▸ List.mem_append_right word hc)
  have hwhole := h.append hmore
  rw [hmissing] at hwhole
  exact ⟨hmem, hwhole, hnarrow.append hmore⟩

/-- **Behind a whole word** nothing is offered, and there is no hint. -/
theorem LastWord.nothing_left {before word : Text} (h : LastWord before word)
    (hnarrow : Narrow before) (hmem : word ∈ words) (after : Text) :
    complete (before ++ after) (byteLength before) = .ok (byteLength before, []) ∧
      hint (before ++ after) (byteLength before) = .ok none := by
  have hnone := offers_of_mem_words hmem
  refine ⟨?_, ?_⟩
  · rw [h.complete_eq hnarrow, hnone, ite_self]
  · by_cases hafter : after = []
    · rw [hafter, List.append_nil, h.hint_eq hnarrow, hnone, List.head?_nil, Option.map_none,
        ite_self]
    · have hpos := byteLength_pos hafter
      exact hint_of_lt (by rw [byteLength_append]; omega)

/-- What is shown is dimmed. -/
lemma LastWord.hint_cases {before word : Text} (h : LastWord before word)
    (hnarrow : Narrow before) :
    hint before (byteLength before) = .ok none ∨
      ∃ rest, hint before (byteLength before) = .ok (some (Ansi.dimmed rest)) := by
  rw [h.hint_eq hnarrow]
  split
  · exact .inl rfl
  · cases (offers word).head? with
    | none => exact .inl rfl
    | some first => exact .inr ⟨first.replacement, rfl⟩

/-- It is the replacement of the first offer. -/
lemma LastWord.hint_eq_some_iff {before word : Text} (h : LastWord before word)
    (hnarrow : Narrow before) (rest : Text) :
    hint before (byteLength before) = .ok (some (Ansi.dimmed rest)) ↔
      2 ≤ byteLength word ∧ ∃ first ∈ (offers word).head?, first.replacement = rest := by
  have hdimmed : Function.Injective Ansi.dimmed := Ansi.wrap_injective _ _
  rw [h.hint_eq hnarrow, Except.ok.injEq]
  by_cases hshort : byteLength word < 2
  · rw [if_pos hshort]
    constructor
    · intro hsome
      cases hsome
    · intro hlong
      exact absurd hlong.1 (Nat.not_le.mpr hshort)
  · rw [if_neg hshort, Option.map_eq_some_iff, and_iff_right (Nat.not_lt.mp hshort)]
    simp only [hdimmed.eq_iff, Option.mem_def]

/-- **Completions and hints follow the words on offer.**  A cursor stands between two parts of a
    line, and the last break before it, if there is one, has one byte.  Then the cursor is at the
    end of some last word.  A completion gives the place of the cursor back.  For the empty word it
    has no offers; for any other it has one for each word that has the last one as a proper prefix,
    in the order of the list.  Once an offer was put in at the cursor there is nothing left to
    offer, and no hint.  A hint is shown only at the end of a line.  It is the dimmed replacement of
    the first offer, if there is one and the last word has two bytes at least. -/
theorem completion_follows_words {line before after : Text} {pos : Nat}
    (hline : line = before ++ after) (hpos : pos = byteLength before) (hnarrow : Narrow before) :
    ∃ word offered, LastWord before word ∧
      complete line pos = .ok (pos, offered) ∧
      (word = [] → offered = []) ∧
      (word ≠ [] → Completes word offered) ∧
      (∀ offer ∈ offered,
        let typed := before ++ offer.replacement ++ after
        let cursor := pos + byteLength offer.replacement
        complete typed cursor = .ok (cursor, []) ∧ hint typed cursor = .ok none) ∧
      (pos < byteLength line → hint line pos = .ok none) ∧
      (pos = byteLength line →
        (hint line pos = .ok none ∨ ∃ rest, hint line pos = .ok (some (Ansi.dimmed rest))) ∧
        ∀ rest, hint line pos = .ok (some (Ansi.dimmed rest)) ↔
          2 ≤ byteLength word ∧ ∃ first ∈ offered.head?, first.replacement = rest) := by
  subst hline hpos
  obtain ⟨word, hword⟩ := exists_lastWord before
  refine ⟨word, _, hword, hword.complete_eq hnarrow after, fun hempty => if_pos hempty,
    fun hne => ?_, fun offer hoffer => ?_, hint_of_lt, fun hend => ?_⟩
  · rw [if_neg hne]
    exact completes_offers word
  · have hne : word ≠ [] := by
      rintro rfl
      cases hoffer
    rw [if_neg hne] at hoffer
    obtain ⟨hmem, hwhole, hstays⟩ := hword.taken hnarrow hoffer
    have hleft := hwhole.nothing_left hstays hmem after
    rwa [byteLength_append] at hleft
  · obtain rfl : after = [] := by
      rw [byteLength_append] at hend
      exact byteLength_eq_zero_iff.mp (by omega)
    rw [List.append_nil]
    refine ⟨hword.hint_cases hnarrow, fun rest => ?_⟩
    rw [hword.hint_eq_some_iff hnarrow]
    refine and_congr_right fun hlong => ?_
    have hne : word ≠ [] := by
      rintro rfl
      exact absurd hlong (by decide)
    rw [if_neg hne]

/-- After `λ(.l` the last word is `.l`.  Only `.load` goes on from it, and its rest is shown dimmed.
    After `λ(.load` there is nothing left. -/
theorem completion_follows_words_load :
    Narrow "λ(.l".toList ∧ LastWord "λ(.l".toList ".l".toList ∧
      complete "λ(.l".toList 5 = .ok (5, [⟨".load".toList, "oad".toList⟩]) ∧
      hint "λ(.l".toList 5 = .ok (some (Ansi.dimmed "oad".toList)) ∧
      complete "λ(.load".toList 8 = .ok (8, []) ∧ hint "λ(.load".toList 8 = .ok none := by
  have hnarrow : Narrow "λ(.l".toList := by decide
  have hlast : LastWord "λ(.l".toList ".l".toList :=
    lastWord_iff.mpr ⟨"λ(".toList, rfl, by simp [isWordCharacter], by simp [isWordCharacter]⟩
  have hoffered : complete "λ(.l".toList 5 = .ok (5, [⟨".load".toList, "oad".toList⟩]) := by rfl
  obtain ⟨word, offered, hword, hcomplete, -, -, htaken, -, hhint⟩ :=
    @completion_follows_words "λ(.l".toList "λ(.l".toList [] 5 rfl rfl hnarrow
  obtain rfl : word = ".l".toList := hword.unique hlast
  rw [hoffered] at hcomplete
  cases hcomplete
  obtain ⟨-, hshown⟩ := hhint rfl
  exact ⟨hnarrow, hlast, hoffered, (hshown _).mpr ⟨by decide, _, rfl, rfl⟩,
    htaken _ List.mem_cons_self⟩

end Completion

end MonkeyTokens
