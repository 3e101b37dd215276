import MonkeyTokens.Proofs.Text.Slice
import MonkeyTokens.Proofs.Token.Stream
import Mathlib.Data.List.Chain

/-!
# Tokens tile their source

Nothing of a source is lost, doubled or split: its tokens and the gaps around them are its slices,
in order, and put together they are the source again.

* `gapSpans`, `Tiling` — the spans around some tokens, and what it means that tokens and gaps are
  the slices of a source;
* `interleave` — gaps and texts put together in turn;
* `Lossless` — everything that is said about spans, boundaries, order, gaps and texts;
* `Scanned.exists_gaps` — the gaps of a derivation, by induction on it;
* **`lossless_tokens`** — the tokens of every source are lossless, and every call after them
  answers with the end of the input.
-/

namespace MonkeyTokens

open Grammar Text

/-! ## Tilings -/

/-- The piece of a source in a span. -/
def cut (source : Text) (s : Span) : Except SliceFault Text :=
  source.slice s.start s.stop

/-- The spans around some tokens: up to the first one, between neighbours, and up to `stop`. -/
def gapSpans : Nat → List Token → Nat → List Span
  | start, [], stop => [⟨start, stop⟩]
  | start, t :: ts, stop => ⟨start, t.span.start⟩ :: gapSpans t.span.stop ts stop

/-- The tokens tile the source from byte `start` on: their texts are the slices in their spans,
    and around them are only gaps. -/
structure Tiling (source : Text) (start : Nat) (tokens : List Token) : Prop where
  texts : ∀ t ∈ tokens, cut source t.span = .ok t.text
  gaps : ∀ s ∈ gapSpans start tokens (byteLength source), ∃ g, cut source s = .ok g ∧ Gap g

/-- Gaps and texts in turn.  Gaps that are left over at the end come last. -/
def interleave : List Text → List Text → Text
  | gaps, [] => gaps.flatten
  | [], texts => texts.flatten
  | g :: gaps, t :: texts => g ++ (t ++ interleave gaps texts)

/-- The tokens hold the whole source, apart from spaces. -/
structure Lossless (source : Text) (tokens : List Token) : Prop where
  /-- No span is empty or ends after the source. -/
  span : ∀ t ∈ tokens, t.span.start < t.span.stop ∧ t.span.stop ≤ byteLength source
  /-- Spans start and end between characters. -/
  boundary : ∀ t ∈ tokens, IsBoundary source t.span.start ∧ IsBoundary source t.span.stop
  /-- A token's text is the slice in its span. -/
  text : ∀ t ∈ tokens, source.slice t.span.start t.span.stop = .ok t.text
  /-- The length of a span is the number of bytes of the text. -/
  length : ∀ t ∈ tokens, t.span.length? = some (byteLength t.text)
  /-- No token starts before its neighbour has ended. -/
  order : tokens.IsChain fun t u => t.span.stop ≤ u.span.start
  /-- The slices around the tokens are gaps, and with the texts they make up the source. -/
  gaps : ∃ gaps : List Text, (∀ g ∈ gaps, Gap g) ∧
    (gapSpans 0 tokens (byteLength source)).map (cut source) = gaps.map .ok ∧
    interleave gaps (tokens.map Token.text) = source
  /-- No space is in a token. -/
  solid : ∀ t ∈ tokens, ∀ c ∈ t.text, ¬ Spacing c
  /-- The texts are the source without its spaces. -/
  content : (tokens.map Token.text).flatten = source.filter fun c => ¬ Spacing c

lemma tiling_nil_iff {source : Text} {n : Nat} :
    Tiling source n [] ↔ ∃ g, cut source ⟨n, byteLength source⟩ = .ok g ∧ Gap g := by
  constructor
  · intro h
    exact h.gaps _ (by simp [gapSpans])
  · intro h
    exact ⟨by simp, by simpa [gapSpans] using h⟩

lemma tiling_cons_iff {source : Text} {n : Nat} {t : Token} {ts : List Token} :
    Tiling source n (t :: ts) ↔
      (∃ g, cut source ⟨n, t.span.start⟩ = .ok g ∧ Gap g) ∧
        cut source t.span = .ok t.text ∧ Tiling source t.span.stop ts := by
  constructor
  · intro h
    exact ⟨h.gaps _ (by simp [gapSpans]), h.texts t (by simp),
      fun u hu => h.texts u (by simp [hu]), fun s hs => h.gaps s (by simp [gapSpans, hs])⟩
  · rintro ⟨hgap, htext, hrest⟩
    refine ⟨?_, ?_⟩
    · intro u hu
      rcases List.mem_cons.mp hu with rfl | hu
      · exact htext
      · exact hrest.texts u hu
    · intro s hs
      simp only [gapSpans, List.mem_cons] at hs
      rcases hs with rfl | hs
      · exact hgap
      · exact hrest.gaps s hs

/-- A slice that is there does not end before it starts. -/
lemma le_of_cut {source g : Text} {s : Span} (h : cut source s = .ok g) : s.start ≤ s.stop :=
  (isBoundary_of_slice h).2.2.1

/-- In a tiling each token ends before the next one starts. -/
lemma Tiling.isChain {source : Text} {ts : List Token} {n : Nat} (h : Tiling source n ts) :
    ts.IsChain fun t u => t.span.stop ≤ u.span.start := by
  induction ts generalizing n with
  | nil => exact .nil
  | cons t us ih =>
      obtain ⟨-, -, hrest⟩ := tiling_cons_iff.mp h
      refine List.isChain_cons.mpr ⟨fun u hu => ?_, ih hrest⟩
      obtain ⟨vs, rfl⟩ := List.head?_eq_some_iff.mp hu
      obtain ⟨⟨g, hg, -⟩, -, -⟩ := tiling_cons_iff.mp hrest
      exact le_of_cut hg

/-! ### From slices to parts

A slice that starts where the past ends is the first part of what is left. -/

/-- A slice in front of `past` is a first part of the rest. -/
lemma exists_of_cut {past s g : Text} {stop : Nat}
    (h : cut (past ++ s) ⟨byteLength past, stop⟩ = .ok g) :
    ∃ rest, s = g ++ rest ∧ byteLength past + byteLength g = stop := by
  obtain ⟨a, rest, hsource, ha, hstop⟩ := slice_eq_ok_iff.mp h
  rw [List.append_assoc] at hsource
  obtain ⟨rfl, rfl⟩ := append_inj_of_byteLength hsource ha.symm
  exact ⟨rest, rfl, hstop⟩

lemma Tiling.gap_of_nil {past s : Text} (h : Tiling (past ++ s) (byteLength past) []) : Gap s := by
  obtain ⟨g, hcut, hgap⟩ := tiling_nil_iff.mp h
  obtain ⟨rest, rfl, hend⟩ := exists_of_cut hcut
  have hrest : byteLength rest = 0 := by
    simp only [byteLength_append] at hend
    omega
  rwa [byteLength_eq_zero_iff.mp hrest, List.append_nil]

lemma Tiling.exists_of_cons {past s : Text} {t : Token} {ts : List Token}
    (h : Tiling (past ++ s) (byteLength past) (t :: ts)) :
    ∃ g rest, s = g ++ (t.text ++ rest) ∧ Gap g ∧
      t.span.start = byteLength (past ++ g) ∧ t.span.stop = byteLength (past ++ g ++ t.text) ∧
      Tiling (past ++ g ++ t.text ++ rest) (byteLength (past ++ g ++ t.text)) ts := by
  obtain ⟨⟨g, hcut, hgap⟩, htext, hrest⟩ := tiling_cons_iff.mp h
  obtain ⟨left, rfl, hstart⟩ := exists_of_cut hcut
  rw [← byteLength_append] at hstart
  have hcut' : cut (past ++ g ++ left) ⟨byteLength (past ++ g), t.span.stop⟩ = .ok t.text := by
    rw [List.append_assoc, hstart]
    exact htext
  obtain ⟨rest, rfl, hstop⟩ := exists_of_cut hcut'
  rw [← byteLength_append] at hstop
  have hall : past ++ (g ++ (t.text ++ rest)) = past ++ g ++ t.text ++ rest := by simp
  rw [hall, ← hstop] at hrest
  exact ⟨g, rest, rfl, hgap, hstart.symm, hstop.symm, hrest⟩

/-! ## What is derived is a tiling

By induction on the derivation.  What was passed before is carried along as `past`, so that all
offsets are offsets into the one source `past ++ s`. -/

/-- The gaps of a derivation are slices of the source, and with the texts they make up what is
    scanned. -/
theorem Scanned.exists_gaps {n : Nat} {s : Text} {ts : List Token} (h : Scanned n s ts) :
    ∀ past, byteLength past = n → ∃ gaps : List Text, (∀ g ∈ gaps, Gap g) ∧
      (gapSpans n ts (byteLength (past ++ s))).map (cut (past ++ s)) = gaps.map .ok ∧
      interleave gaps (ts.map Token.text) = s := by
  induction h with
  | @done n gap hgap =>
      rintro past rfl
      refine ⟨[gap], by simpa using hgap, ?_, by simp [interleave]⟩
      exact congrArg (· :: []) (slice_suffix past gap)
  | @token n gap text rest k ts hgap _ _ _ ih =>
      rintro past rfl
      obtain ⟨gaps, hgaps, hcuts, hall⟩ :=
        ih (past ++ gap ++ text) (by simp only [byteLength_append])
      refine ⟨gap :: gaps, List.forall_mem_cons.mpr ⟨hgap, hgaps⟩, ?_, ?_⟩
      · have hsource : past ++ gap ++ text ++ rest = past ++ (gap ++ (text ++ rest)) := by simp
        have hslice := slice_append past gap (text ++ rest)
        rw [List.append_assoc] at hslice
        rw [hsource] at hcuts
        rw [gapSpans, List.map_cons, List.map_cons, hcuts, cut, hslice]
      · rw [List.map_cons, interleave, hall]

theorem Scanned.tiling {n : Nat} {s : Text} {ts : List Token} (h : Scanned n s ts)
    (past : Text) (hpast : byteLength past = n) : Tiling (past ++ s) n ts := by
  constructor
  · intro t ht
    obtain ⟨a, rest, hsplit, hstart, hstop, -⟩ := h.exists_split past hpast t ht
    exact slice_eq_ok_iff.mpr ⟨a, rest, by rw [hsplit, List.append_assoc], hstart, hstop⟩
  · intro sp hsp
    obtain ⟨gaps, hgaps, hcuts, -⟩ := h.exists_gaps past hpast
    have hmem := List.mem_map_of_mem (f := cut (past ++ s)) hsp
    rw [hcuts] at hmem
    obtain ⟨g, hg, hcut⟩ := List.mem_map.mp hmem
    exact ⟨g, hcut.symm, hgaps g hg⟩

/-! ## Nothing is lost -/

/-- **The tokens of a source are lossless.**  None of them is the end of the input; the calls of
    `nextToken` answer with them in order and from then on with the end of the input, which is
    empty and stands at the end of the source. -/
theorem lossless_tokens (source : Text) :
    Lossless source (Cursor.tokens source) ∧
      (∀ t ∈ Cursor.tokens source, t.isEof = false) ∧
      ∀ i, Cursor.answer source i =
        (Cursor.tokens source)[i]?.getD ⟨.eof, [], ⟨byteLength source, byteLength source⟩⟩ := by
  have h := Cursor.scanned_tokens source
  have htiling : Tiling source 0 (Cursor.tokens source) := h.tiling [] rfl
  refine ⟨?_, fun t ht => ?_, Cursor.answer_eq source⟩
  · have hslice : ∀ t ∈ Cursor.tokens source,
        ∃ a b, source = a ++ t.text ++ b ∧ byteLength a = t.span.start ∧
          byteLength a + byteLength t.text = t.span.stop := fun t ht =>
      slice_eq_ok_iff.mp (htiling.texts t ht)
    have hlt : ∀ t ∈ Cursor.tokens source, t.span.start < t.span.stop := by
      intro t ht
      obtain ⟨a, b, -, ha, hab⟩ := hslice t ht
      have hpos := byteLength_pos (h.lexeme t ht).ne_nil
      omega
    exact
      { span := fun t ht => ⟨hlt t ht, (isBoundary_of_slice (htiling.texts t ht)).2.2.2⟩
        boundary := fun t ht =>
          have hb := isBoundary_of_slice (htiling.texts t ht)
          ⟨hb.1, hb.2.1⟩
        text := htiling.texts
        length := by
          intro t ht
          obtain ⟨a, b, -, ha, hab⟩ := hslice t ht
          have hle := hlt t ht
          rw [Span.length?, if_pos (by omega)]
          exact congrArg some (by omega)
        order := htiling.isChain
        gaps := h.exists_gaps [] rfl
        solid := fun t ht => (h.lexeme t ht).not_spacing
        content := h.flatten_texts }
  · have hne := (h.lexeme t ht).ne_eof
    simp [Token.isEof, hne]

/-- In `x λ==` the illegal character takes two bytes, and they are the slice in its span. -/
theorem lossless_tokens_illegal :
    ⟨.illegal, ['λ'], ⟨2, 4⟩⟩ ∈ Cursor.tokens "x λ==".toList ∧
      Text.slice "x λ==".toList 2 4 = .ok ['λ'] :=
  have hmem : ⟨.illegal, ['λ'], ⟨2, 4⟩⟩ ∈ Cursor.tokens "x λ==".toList := by decide +kernel
  ⟨hmem, (lossless_tokens _).1.text _ hmem⟩

end MonkeyTokens
