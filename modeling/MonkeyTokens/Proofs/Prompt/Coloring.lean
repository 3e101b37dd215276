import MonkeyTokens.Prompt.Highlight
import MonkeyTokens.Proofs.Dump.Lines
import MonkeyTokens.Proofs.Text.Ansi
import MonkeyTokens.Proofs.Token.Tiling

/-!
# Color changes nothing else

A line of the prompt and a dump are shown in color or without.  With the escape sequences taken out,
what is shown in color is what is shown without it.  The one exception is a text that has an escape
character itself: stripping takes that out as well.

**Highlighting.**  `Highlight.painted` is what is shown of a token.  Between the painted tokens
stand the gaps of the line (`Scanned.exists_painted`), so by induction on the derivation of its
tokens the line is left when the sequences are taken out (`Scanned.strip_paintFrom`).
`Highlight.sliceSource` cuts the gaps out of the whole line, from the end of one token to the start
of the next; none of these cuts fails (`Scanned.paintSlices_eq`).

**Dumps.**  A colored line of a token is stripped to its plain line (`Token.strip_render`), and so
are all lines (`Dump.strip_text_iff`).

**`coloring_adds_escapes_only`** puts both together.
-/

namespace MonkeyTokens

open Ansi Grammar Text

/-! ## Highlighting -/

namespace Highlight

/-- What is shown of a token. -/
def painted (t : Token) : Text :=
  t.kind.style.paint t.text

/-- Paints tokens and cuts the gaps between them out of the line.  The last token that was painted
    ended at `last`. -/
def paintSlices (line : Text) (last : Nat) : List Token → Except SliceFault Text
  | [] => line.slice last line.byteLength
  | t :: ts => do
    let gap ← line.slice last t.span.start
    let after ← paintSlices line t.span.stop ts
    return gap ++ painted t ++ after

/-- A source in color, cut out of the whole line. -/
def sliceSource (line : Text) : Except SliceFault Text :=
  paintSlices line 0 (scan line)

/-- A token that follows a gap is painted, and the gap is kept. -/
lemma paintFrom_token (n : Nat) (gap text rest : Text) (k : Kind) (ts : List Token) :
    paintFrom n (gap ++ (text ++ rest))
        (⟨k, text, ⟨n + byteLength gap, n + byteLength gap + byteLength text⟩⟩ :: ts) =
      gap ++ k.style.paint text ++ paintFrom (n + byteLength gap + byteLength text) rest ts := by
  have hgap : takeBytes? (gap ++ (text ++ rest)) (n + byteLength gap - n) = some gap := by
    rw [Nat.add_sub_cancel_left, takeBytes?_append]
  have hrest : dropBytes? (gap ++ (text ++ rest))
      (n + byteLength gap + byteLength text - n) = some rest := by
    have hlen : n + byteLength gap + byteLength text - n = byteLength (gap ++ text) := by
      rw [byteLength_append]
      omega
    rw [hlen, ← List.append_assoc, dropBytes?_append]
  simp only [paintFrom, hgap, hrest, Option.getD_some]

end Highlight

open Highlight

/-- **Painted tokens and gaps in turn.**  Unpainted, they are what was scanned. -/
theorem Scanned.exists_painted {n : Nat} {s : Text} {ts : List Token} (h : Scanned n s ts) :
    ∃ gaps, (∀ g ∈ gaps, Gap g) ∧ interleave gaps (ts.map Token.text) = s ∧
      paintFrom n s ts = interleave gaps (ts.map painted) := by
  induction h with
  | @done n gap hgap => exact ⟨[gap], by simpa using hgap, by simp [interleave, paintFrom]⟩
  | @token n gap text rest k ts hgap _ _ _ ih =>
      obtain ⟨gaps, hgaps, hall, hpaint⟩ := ih
      refine ⟨gap :: gaps, List.forall_mem_cons.mpr ⟨hgap, hgaps⟩, ?_, ?_⟩
      · rw [List.map_cons, interleave, hall]
      · rw [paintFrom_token, hpaint, List.map_cons, interleave, List.append_assoc]
        rfl

/-- **No cut fails** when gaps are cut out of the whole line.  What was passed before the derivation
    is carried along as `past`. -/
theorem Scanned.paintSlices_eq {n : Nat} {s : Text} {ts : List Token} (h : Scanned n s ts) :
    ∀ past, byteLength past = n → paintSlices (past ++ s) n ts = .ok (paintFrom n s ts) := by
  induction h with
  | @done n gap _ =>
      rintro past rfl
      exact slice_suffix past gap
  | @token n gap text rest k ts _ _ _ _ ih =>
      rintro past rfl
      have hslice := slice_append past gap (text ++ rest)
      have hnext := ih (past ++ gap ++ text) (by simp only [byteLength_append])
      have hsource : past ++ gap ++ text ++ rest = past ++ (gap ++ (text ++ rest)) := by simp
      rw [List.append_assoc] at hslice
      rw [hsource] at hnext
      rw [paintSlices, hslice, paintFrom_token]
      show (paintSlices _ _ ts >>= _) = _
      rw [hnext]
      rfl

/-- **Stripped of its sequences** a painted source is what was scanned. -/
theorem Scanned.strip_paintFrom {n : Nat} {s : Text} {ts : List Token} (h : Scanned n s ts)
    (hs : escape ∉ s) : strip (paintFrom n s ts) = s := by
  induction h with
  | @done n gap _ =>
      have hstrip := strip_append hs []
      rwa [List.append_nil, strip, List.append_nil] at hstrip
  | @token n gap text rest k ts _ _ _ _ ih =>
      simp only [List.mem_append, not_or] at hs
      obtain ⟨hgap, htext, hrest⟩ := hs
      rw [paintFrom_token, List.append_assoc, strip_append hgap, strip_paint _ htext, ih hrest]

namespace Highlight

/-- A source in color is stripped to the source exactly if no escape character is in it. -/
theorem strip_source_iff (line : Text) : strip (source line) = line ↔ escape ∉ line := by
  constructor
  · intro h
    rw [← h]
    exact escape_notMem_strip _
  · exact (scanned_scanFrom 0 line).strip_paintFrom

/-- A call is one colored piece. -/
lemma line_of_call {t : Text} {call : Command.Call} (h : Command.parse? t = some call) :
    line true t = "\x1b[35m".toList ++ t ++ "\x1b[39m".toList := by
  rw [line, h]
  rfl

lemma line_of_source {t : Text} (h : Command.parse? t = none) : line true t = source t := by
  rw [line, h]
  rfl

/-- So is a line of the prompt, be it a command or a source. -/
theorem strip_line_iff (t : Text) : strip (line true t) = t ↔ escape ∉ t := by
  cases hcall : Command.parse? t with
  | none =>
      rw [line_of_source hcall]
      exact strip_source_iff t
  | some call =>
      constructor
      · intro h
        rw [← h]
        exact escape_notMem_strip _
      · intro ht
        have hoff : 'm' ∉ "39".toList := by decide
        have hstrip := strip_wrap (Color.m_notMem_code .magenta) hoff ht []
        have hwrapped : line true t = wrap Color.magenta.code "39".toList t := line_of_call hcall
        rw [hwrapped]
        rwa [List.append_nil, strip, List.append_nil] at hstrip

end Highlight

/-! ## Dumps -/

/-- **The colored line of a token** is stripped to its plain line. -/
theorem Token.strip_render {t : Token} (h : escape ∉ t.text) (b : Text) :
    strip (t.render true ++ b) = t.render false ++ strip b := by
  have hname : escape ∉ t.kind.name := Kind.notMem_name (by decide) t.kind
  show strip (frame _ _ ++ b) = frame _ _ ++ strip b
  unfold frame
  simp only [List.append_assoc]
  rw [strip_append (by decide), strip_paint _ hname, strip_append (by decide), strip_paint _ h,
    strip_append (by decide)]

lemma strip_lineText_render {ts : List Token} (h : ∀ t ∈ ts, escape ∉ t.text) :
    strip (Console.lineText (ts.map (Token.render true))) =
      Console.lineText (ts.map (Token.render false)) := by
  unfold Console.lineText
  induction ts with
  | nil => rfl
  | cons t ts ih =>
      obtain ⟨ht, hts⟩ := List.forall_mem_cons.mp h
      simp only [List.map_cons, List.flatMap_cons, List.append_assoc]
      rw [Token.strip_render ht, strip_append (by decide), ih hts]

namespace Dump

/-- A character of a source that is no space is shown in its dump. -/
lemma mem_plain {source : Text} {c : Char} (hc : c ∈ source) (hspace : ¬ Spacing c) :
    c ∈ text false source := by
  have hsolid : c ∈ source.filter fun c => ¬ Spacing c := by simp [hc, hspace]
  rw [← (Cursor.scanned_tokens source).flatten_texts] at hsolid
  obtain ⟨shown, hshown, hmem⟩ := List.mem_flatten.mp hsolid
  obtain ⟨t, ht, rfl⟩ := List.mem_map.mp hshown
  have hline : c ∈ t.render false := by
    rw [Token.render_plain, Token.item, plainLine_eq]
    simp [hmem]
  rw [text_eq_lineText, Console.lineText]
  exact List.mem_flatMap.mpr ⟨_, List.mem_map_of_mem ht, List.mem_append_left _ hline⟩

/-- A dump in color is stripped to the plain one exactly if no escape character is in its source. -/
theorem strip_text_iff (source : Text) :
    strip (text true source) = text false source ↔ escape ∉ source := by
  constructor
  · intro h hmem
    have hplain := mem_plain hmem (by decide)
    rw [← h] at hplain
    exact escape_notMem_strip _ hplain
  · intro h
    rw [text_eq_lineText, text_eq_lineText]
    refine strip_lineText_render fun t ht hmem => h ?_
    have hsolid : escape ∈ ((Cursor.tokens source).map Token.text).flatten :=
      List.mem_flatten.mpr ⟨t.text, List.mem_map_of_mem ht, hmem⟩
    rw [(Cursor.scanned_tokens source).flatten_texts] at hsolid
    exact List.mem_of_mem_filter hsolid

end Dump

/-! ## Both -/

/-- **Color adds escape sequences and nothing else.**  A line of the prompt in color is the line
    again when its sequences are stripped, exactly if no escape character is in the line, be it a
    command, which is wrapped as a whole, or a source; no cut of that fails, and painted tokens and
    gaps stand in their order.  Without color it is the line itself.  A dump in color is stripped to the plain dump, exactly if
    no escape character is in the source, and what was seen is the same in any case. -/
theorem coloring_adds_escapes_only (line source : Text) :
    ((strip (Highlight.line true line) = line ↔ escape ∉ line) ∧
      (∀ call, Command.parse? line = some call →
        Highlight.line true line = "\x1b[35m".toList ++ line ++ "\x1b[39m".toList) ∧
      (Command.parse? line = none → Highlight.line true line = Highlight.source line) ∧
      (strip (Highlight.source line) = line ↔ escape ∉ line) ∧
      Highlight.sliceSource line = .ok (Highlight.source line) ∧
      (∃ gaps, (∀ g ∈ gaps, Gap g) ∧
        interleave gaps ((Cursor.tokens line).map Token.text) = line ∧
        Highlight.source line = interleave gaps ((Cursor.tokens line).map Highlight.painted)) ∧
      Highlight.line false line = line) ∧
    (strip (Dump.text true source) = Dump.text false source ↔ escape ∉ source) ∧
      (∀ (color : Bool) (out : Sink), Writer.Accepts out →
        (Dump.write color source out).2.contents =
          out.contents ++ (Dump.text color source).encode) ∧
      ∃ summary, ∀ (ω : Type) [Writer ω] (color : Bool) (out : ω), Writer.Accepts out →
        (Dump.write color source out).1 = .ok summary := by
  have hscan := scanned_scanFrom 0 line
  refine ⟨⟨Highlight.strip_line_iff line, fun _ => Highlight.line_of_call,
    Highlight.line_of_source, Highlight.strip_source_iff line, hscan.paintSlices_eq [] rfl, ?_,
    rfl⟩, Dump.strip_text_iff source, ?_, ?_⟩
  · rw [Cursor.tokens_eq_scan]
    exact hscan.exists_painted
  · intro color out hout
    exact Dump.contents_write hout color source
  · exact ⟨_, fun ω _ color out hout => Dump.write_of_accepts hout color source⟩

/-- `let λ` comes back from its colors, as a line and as a dump, with the same summary in both; a
    source that has a sequence of its own does not.  `.exit` is wrapped whole. -/
theorem coloring_adds_escapes_only_letter :
    Writer.Accepts Sink.unbounded ∧
      strip (Highlight.line true "let λ".toList) = "let λ".toList ∧
      Highlight.line true "let λ".toList = Highlight.source "let λ".toList ∧
      Highlight.line true ".exit".toList = "\x1b[35m.exit\x1b[39m".toList ∧
      strip (Dump.text true "let λ".toList) = Dump.text false "let λ".toList ∧
      strip (Dump.text true "\x1b[m".toList) ≠ Dump.text false "\x1b[m".toList ∧
      (Dump.write true "let λ".toList Sink.unbounded).1 =
        (Dump.write false "let λ".toList Sink.unbounded).1 := by
  have hout : Writer.Accepts Sink.unbounded := Sink.accepts_iff.mpr rfl
  have hplain : escape ∉ "let λ".toList := by decide
  have hown : escape ∈ "\x1b[m".toList := by decide
  obtain ⟨⟨hline, -, hsource, -⟩, hdump, -, summary, hsummary⟩ :=
    coloring_adds_escapes_only "let λ".toList "let λ".toList
  obtain ⟨⟨-, hcall, -⟩, hescape, -⟩ :=
    coloring_adds_escapes_only ".exit".toList "\x1b[m".toList
  refine ⟨hout, hline.mpr hplain, hsource (by decide), hcall ⟨.exit, none⟩ (by decide),
    hdump.mpr hplain, fun h => hescape.mp h hown, ?_⟩
  rw [hsummary Sink true .unbounded hout, hsummary Sink false .unbounded hout]

end MonkeyTokens
