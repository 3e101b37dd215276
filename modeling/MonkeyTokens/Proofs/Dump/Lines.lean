import MonkeyTokens.Proofs.Program.Console
import MonkeyTokens.Proofs.Text.Bytes
import MonkeyTokens.Proofs.Token.Catalog
import MonkeyTokens.Proofs.Token.Layout

/-!
# The lines of a dump

A plain dump can be read back.  It is cut into lines at its line feeds, because no token has a line
feed in it.  A line is cut into a name and a text at its first space after the heading, because no
name has a space in it.  What the text looks like does not matter, so braces in it do no harm.

* `plainLine` — the line of a kind and a text; **`plainLine_injective`** — it tells both;
* `Dump.text_eq_lineText`, `Dump.plain_eq_lineText` — a dump is the lines of its tokens;
* `Dump.textLines_plain` — the lines that are read are those that were written;
* `Dump.plain_eq_iff` — a plain dump tells the tokens, up to their places, and nothing else;
* **`plain_dump_lines`** — all of this about what is written to a sink.
-/

namespace MonkeyTokens

open Grammar Text

/-! ## One line -/

/-- The plain line of a kind and a text. -/
def plainLine (item : Kind × Text) : Text :=
  Token.frame item.1.name item.2

lemma Token.render_plain (t : Token) : t.render false = plainLine t.item := rfl

lemma plainLine_eq (k : Kind) (t : Text) :
    plainLine (k, t) =
      "\x7bType:".toList ++ (k.name ++ (" Literal:".toList ++ (t ++ "\x7d".toList))) := by
  unfold plainLine Token.frame
  rw [List.append_assoc, List.append_assoc, List.append_assoc]

/-- **A line tells the kind and the text that it shows.**  The name ends at the first space after
    the heading. -/
theorem plainLine_injective : Function.Injective plainLine := by
  rintro ⟨j, t⟩ ⟨k, u⟩ h
  rw [plainLine_eq, plainLine_eq] at h
  have hbody := List.append_cancel_left h
  have hword : ∀ i : Kind, ∀ c ∈ i.name, (c != ' ') = true := by
    intro i c hc
    have hne : c ≠ ' ' := by
      rintro rfl
      exact Kind.notMem_name (by decide) i hc
    simpa using hne
  have hstop : ∀ v, ∀ d ∈ (" Literal:".toList ++ v).head?, ¬ (d != ' ') = true := by
    rintro v d ⟨⟩
    decide
  have hname : j.name = k.name := by
    have hrun := congrArg (List.takeWhile (· != ' ')) hbody
    rwa [takeWhile_append_of_stop (hword j) (hstop _),
      takeWhile_append_of_stop (hword k) (hstop _)] at hrun
  rw [hname] at hbody
  have htext := List.append_cancel_left (List.append_cancel_left hbody)
  rw [Kind.name_injective hname, List.append_cancel_right htext]

/-- A line breaks only where the text does. -/
lemma newline_notMem_plainLine {k : Kind} {t : Text} (h : '\n' ∉ t) :
    '\n' ∉ plainLine (k, t) := by
  have hname : '\n' ∉ k.name := Kind.notMem_name (by decide) k
  have htext : '\n' ∉ t ++ "\x7d".toList := List.not_mem_append h (by decide)
  rw [plainLine_eq]
  exact List.not_mem_append (by decide)
    (List.not_mem_append hname (List.not_mem_append (by decide) htext))

/-! ## All lines -/

namespace Dump

/-- A dump is the lines of its tokens. -/
lemma text_eq_lineText (color : Bool) (source : Text) :
    text color source = Console.lineText ((Cursor.tokens source).map (Token.render color)) := by
  rw [text, pieces, ← Console.flatten_pieces, List.flatMap_map, Cursor.tokens_eq_scan]

/-- A plain dump does not show where its tokens are. -/
lemma plain_eq_lineText (source : Text) :
    text false source =
      Console.lineText (((Cursor.tokens source).map Token.item).map plainLine) := by
  rw [text_eq_lineText, List.map_map]
  rfl

lemma newline_notMem_of_mem {source : Text} {t : Token} (ht : t ∈ Cursor.tokens source) :
    '\n' ∉ t.render false := by
  have hlex := (Cursor.scanned_tokens source).lexeme t ht
  have htext : '\n' ∉ t.text := fun h => hlex.not_spacing '\n' h (by decide)
  rw [Token.render_plain]
  exact newline_notMem_plainLine htext

/-- **The lines of a plain dump** are those of its tokens. -/
theorem textLines_plain (source : Text) :
    textLines (text false source) =
      (Cursor.tokens source).map fun t => t.render false ++ ['\n'] := by
  have hfree : ∀ line ∈ (Cursor.tokens source).map (Token.render false), '\n' ∉ line := by
    intro line hline
    obtain ⟨t, ht, rfl⟩ := List.mem_map.mp hline
    exact newline_notMem_of_mem ht
  rw [text_eq_lineText, Console.lineText, textLines_flatMap hfree, List.map_map]
  rfl

/-- **A plain dump tells its tokens**, up to their places, and nothing else. -/
theorem plain_eq_iff (source other : Text) :
    text false source = text false other ↔
      (Cursor.tokens source).map Token.item = (Cursor.tokens other).map Token.item := by
  constructor
  · intro h
    have hline : Function.Injective fun item => plainLine item ++ ['\n'] :=
      fun item item' heq => plainLine_injective (List.append_cancel_right heq)
    have hlines := congrArg textLines h
    rw [textLines_plain, textLines_plain] at hlines
    refine List.map_injective_iff.mpr hline ?_
    rw [List.map_map, List.map_map]
    exact hlines
  · intro h
    rw [plain_eq_lineText, plain_eq_lineText, h]

end Dump

/-- **A plain dump is a faithful list of lines.**  To a sink that refuses nothing, one line is
    written for each token: the heading, the name of the kind and the text, with a line feed behind
    and none within.  What is written for two sources is the same exactly when their tokens are, up
    to their places. -/
theorem plain_dump_lines (source : Text) {out : Sink} (hout : Writer.Accepts out) :
    (Dump.write false source out).2.contents =
        out.contents ++ (Dump.text false source).encode ∧
      (∃ summary, (Dump.write false source out).1 = .ok summary ∧
        (textLines (Dump.text false source)).length = summary.tokens) ∧
      textLines (Dump.text false source) =
        (Cursor.tokens source).map (fun t => t.render false ++ ['\n']) ∧
      (∀ t ∈ Cursor.tokens source, '\n' ∉ t.render false ∧ t.render false =
        "\x7bType:".toList ++ t.kind.name ++ " Literal:".toList ++ t.text ++ "\x7d".toList) ∧
      ∀ other, (Dump.write false source out).2.contents =
          (Dump.write false other out).2.contents ↔
        (Cursor.tokens source).map Token.item = (Cursor.tokens other).map Token.item := by
  have hlines := Dump.textLines_plain source
  refine ⟨Dump.contents_write hout false source, ⟨_, Dump.write_of_accepts hout false source, ?_⟩,
    hlines, fun t ht => ⟨Dump.newline_notMem_of_mem ht, rfl⟩, fun other => ?_⟩
  · rw [hlines, List.length_map, Cursor.tokens_eq_scan]
    rfl
  · rw [Dump.contents_write hout, Dump.contents_write hout, List.append_right_inj,
      encode_injective.eq_iff, Dump.plain_eq_iff]

/-- A brace and a line separator of two characters each have a line, in which neither breaks; a
    space between braces does not show, but their order does. -/
theorem plain_dump_lines_braces :
    Writer.Accepts Sink.unbounded ∧
      textLines (Dump.text false "\x7d\u2028".toList) =
        ["\x7bType:\x7d Literal:\x7d\x7d\n".toList,
          "\x7bType:ILLEGAL Literal:\u2028\x7d\n".toList] ∧
      (Dump.write false "\x7b\x7d".toList Sink.unbounded).2.contents =
        (Dump.write false "\x7b \x7d".toList Sink.unbounded).2.contents ∧
      (Dump.write false "\x7b\x7d".toList Sink.unbounded).2.contents ≠
        (Dump.write false "\x7d\x7b".toList Sink.unbounded).2.contents := by
  have hout : Writer.Accepts Sink.unbounded := Sink.accepts_iff.mpr rfl
  obtain ⟨-, -, hlines, -⟩ := plain_dump_lines "\x7d\u2028".toList hout
  obtain ⟨-, -, -, -, hiff⟩ := plain_dump_lines "\x7b\x7d".toList hout
  refine ⟨hout, hlines.trans (by decide +kernel), (hiff _).mpr (by decide +kernel), fun heq => ?_⟩
  exact absurd ((hiff _).mp heq) (by decide +kernel)

end MonkeyTokens
