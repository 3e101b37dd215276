import MonkeyTokens.Proofs.Dump.Lines
import MonkeyTokens.Proofs.Program.Legality
import MonkeyTokens.Proofs.Prompt.Command
import MonkeyTokens.Proofs.Session.Entries
import MonkeyTokens.Proofs.Token.Padding

/-!
# An entry at the prompt and the same source in the arguments

The prompt trims an entry before it dumps it; a source in the arguments is dumped as it is.

**What the prompt does.**  `Entry.action` decides on an entry: pass over it, execute a call, or dump
the trimmed entry as a source.  To evaluate an entry is to perform its action
(`Entry.evaluate_eq`).

**Dumps.**  The blank characters that are trimmed have lines of their own in the dump, unless they
are spaces for the scanner too (`Dump.text_trim`).  So the two dumps are the same exactly if nothing
but such spaces was trimmed (`Dump.text_trim_eq_iff`).  Then the illegal tokens are only moved
(`Dump.illegal_trim`), and so are the offsets in the warnings (`Dump.warnings_trim`).

**`entry_versus_inline`** says this of everything the prompt dumps.
-/

namespace MonkeyTokens

open Grammar Text

/-! ## What the prompt does -/

namespace Entry

/-- What the prompt does with an entry. -/
inductive Action where
  | pass
  | execute (call : Command.Call)
  | dump (source : Text)
  deriving DecidableEq, Repr

/-- The action for an entry, by what is left of it when it is trimmed. -/
def action (entry : Text) : Action :=
  if entry.trim = [] then .pass
  else
    match Command.parse? entry.trim with
    | some call => .execute call
    | none => .dump entry.trim

/-- Performs an action. -/
def Action.perform (ctx : Context) : Action → Console → Flow × Console
  | .pass, con => (.proceed, con)
  | .execute call, con => Entry.execute ctx call con
  | .dump source, con => (.proceed, Entry.dump ctx source con)

/-- **To evaluate an entry** is to perform its action. -/
theorem evaluate_eq (ctx : Context) (entry : Text) (con : Console) :
    evaluate ctx entry con = (action entry).perform ctx con := by
  simp only [evaluate, action]
  split
  · rfl
  · cases Command.parse? entry.trim <;> rfl

/-- Calls are executed: nothing that is left empty is one. -/
lemma action_eq_execute_iff {entry : Text} {call : Command.Call} :
    action entry = .execute call ↔ Command.parse? entry.trim = some call := by
  unfold action
  split
  · next hnil =>
      have hnone : Command.parse? [] = none := rfl
      simp [hnil, hnone]
  · cases Command.parse? entry.trim <;> simp

lemma action_eq_dump_iff {entry source : Text} :
    action entry = .dump source ↔
      source = entry.trim ∧ entry.trim ≠ [] ∧ Command.parse? entry.trim = none := by
  unfold action
  split
  · next hnil => simp [hnil]
  · next hne => cases Command.parse? entry.trim <;> simp [hne, eq_comm]

end Entry

/-! ## Dumps of trimmed texts -/

lemma Console.lineText_append (xs ys : List Text) :
    lineText (xs ++ ys) = lineText xs ++ lineText ys :=
  List.flatMap_append

lemma Console.lineText_eq_nil_iff {lines : List Text} : lineText lines = [] ↔ lines = [] := by
  cases lines <;> simp [lineText]

/-- What is logged about the illegal characters of a source. -/
def Console.warnings (target source : Text) : List Log.Event :=
  (Dump.Summary.ofTokens (scan source)).illegal.map (Log.illegalCharacter target)

/-- The warning of an illegal character at an offset. -/
def Log.warningAt (target : Text) (offset : Nat) (text : Text) : Log.Event where
  level := .warn
  target := target
  message := "illegal character".toList
  fields := [("offset".toList, Nat.toDigits 10 offset), ("text".toList, text.quoted)]

/-- **There is a warning** of each illegal token. -/
lemma Console.warnings_eq (target source : Text) :
    warnings target source =
      ((Cursor.tokens source).filter fun t => t.kind = .illegal).map fun t =>
        Log.warningAt target t.span.start t.text := by
  rw [warnings, Cursor.tokens_eq_scan]
  rfl

namespace Dump

/-- **What is trimmed of a text** has lines before and after those of the trimmed text, which are
    the same in both dumps. -/
theorem text_trim (color : Bool) (s : Text) :
    text color s =
      Console.lineText ((strangers 0 (leading s)).map (Token.render color)) ++ text color s.trim ++
        Console.lineText
          ((strangers (byteLength (leading s) + byteLength s.trim) (trailing s)).map
            (Token.render color)) := by
  have hshift : Token.render color ∘ Token.shift (byteLength (leading s)) = Token.render color :=
    rfl
  rw [text_eq_lineText, text_eq_lineText, Cursor.tokens_eq_scan, Cursor.tokens_eq_scan,
    scan_trim s, List.map_append, List.map_append, List.map_map, hshift, Console.lineText_append,
    Console.lineText_append]

/-- Blank characters have no lines exactly if they are spaces for the scanner too. -/
lemma lineText_strangers_eq_nil_iff {p : Text} (hp : Blank p) (color : Bool) (n : Nat) :
    Console.lineText ((strangers n p).map (Token.render color)) = [] ↔ Gap p := by
  rw [Console.lineText_eq_nil_iff, List.map_eq_nil_iff, strangers_eq_nil_iff,
    allInAlphabet_iff_of_blank hp]

/-- **When trimming does not show.** -/
theorem text_trim_eq_iff (color : Bool) (s : Text) :
    text color s = text color s.trim ↔ Gap (leading s) ∧ Gap (trailing s) := by
  rw [text_trim, ← lineText_strangers_eq_nil_iff (blank_leading s) color 0,
    ← lineText_strangers_eq_nil_iff (blank_trailing s) color
      (byteLength (leading s) + byteLength s.trim)]
  constructor
  · intro h
    have hlen := congrArg List.length h
    simp only [List.length_append] at hlen
    exact ⟨List.eq_nil_of_length_eq_zero (by omega), List.eq_nil_of_length_eq_zero (by omega)⟩
  · rintro ⟨hfront, hback⟩
    rw [hfront, hback, List.nil_append, List.append_nil]

/-- If only spaces of the scanner are trimmed, the illegal tokens are the same, moved on. -/
lemma illegal_trim {s : Text} (hfront : Gap (leading s)) (hback : Gap (trailing s)) :
    (Summary.ofTokens (scan s)).illegal =
      (Summary.ofTokens (scan s.trim)).illegal.map (Token.shift (byteLength (leading s))) := by
  have hnone : ∀ {n : Nat} {p : Text}, Blank p → Gap p → strangers n p = [] := fun hp hgap =>
    strangers_eq_nil_iff.mpr ((allInAlphabet_iff_of_blank hp).mpr hgap)
  have hshift : Token.isIllegal ∘ Token.shift (byteLength (leading s)) = Token.isIllegal := rfl
  rw [scan_trim s, hnone (blank_leading s) hfront, hnone (blank_trailing s) hback,
    List.nil_append, List.append_nil, Summary.ofTokens, Summary.ofTokens, List.filter_map, hshift]

/-- Then there are the same warnings, at offsets moved on. -/
lemma warnings_trim {s : Text} (hfront : Gap (leading s)) (hback : Gap (trailing s))
    (target : Text) :
    Console.warnings target s =
      ((Cursor.tokens s.trim).filter fun t => t.kind = .illegal).map fun t =>
        Log.warningAt target (byteLength (leading s) + t.span.start) t.text := by
  rw [Console.warnings, illegal_trim hfront hback, List.map_map, Cursor.tokens_eq_scan]
  rfl

end Dump

/-! ## The two ways -/

/-- How an entry comes out at the prompt and how the same text comes out of the arguments, on a
    console that was the same before. -/
structure Entry.Compared (entry : Text) (ctx : Context) (files : FileTree) (con : Console) :
    Prop where
  /-- The prompt goes on after a dump of the trimmed entry. -/
  goesOn : (evaluate ctx entry con).1 = .proceed
  prompt : Console.Emits con (evaluate ctx entry con).2 (Dump.text ctx.color entry.trim)
    (Console.shown ctx.filter (Log.scanned entry.trim (.ofTokens (scan entry.trim)) ::
      Console.warnings Log.Target.prompt entry.trim))
  /-- The program dumps the text as it is. -/
  out : (Program.dumpSource ctx entry files con).out.contents =
    con.out.contents ++ (Dump.text ctx.color entry).encode
  err : (Program.dumpSource ctx entry files con).err = con.err ++
    Console.shown ctx.filter (Log.scanned entry (.ofTokens (scan entry)) ::
      Console.warnings Log.Target.program entry) ++ Program.verdict entry
  /-- The two dumps are the same if only spaces of the scanner were trimmed. -/
  same_iff : (evaluate ctx entry con).2.out.contents =
      (Program.dumpSource ctx entry files con).out.contents ↔
    Gap (leading entry) ∧ Gap (trailing entry)

lemma Entry.compared {entry : Text} (haction : action entry = .dump entry.trim) (ctx : Context)
    (files : FileTree) {con : Console} (h : con.Open) : Compared entry ctx files con := by
  have hperform : evaluate ctx entry con = (.proceed, dump ctx entry.trim con) := by
    rw [evaluate_eq, haction]
    rfl
  have hprompt := emits_dump h ctx entry.trim
  have hout := Program.contents_dumpSource h ctx entry files
  have herr := (Program.dumpSource_eq h ctx entry files).2
  refine ⟨by rw [hperform], by rwa [hperform], hout, herr, ?_⟩
  rw [hperform, hprompt.out, hout, List.append_right_inj, encode_injective.eq_iff,
    ← Dump.text_trim_eq_iff ctx.color, eq_comm]

/-- **An entry at the prompt and the same text in the arguments.**  An entry that is neither blank
    nor a call is trimmed and dumped.  As it is, its tokens are one illegal token for each character
    that was trimmed in front and is no space of the scanner, then those of the trimmed entry, moved
    on by what was trimmed, then one for each such character behind.  So the prompt and the program
    put out the same exactly if only spaces of the scanner were trimmed.  Then they warn of the same
    characters in the same order, at the prompt at offsets that are smaller by what was trimmed in
    front. -/
theorem entry_versus_inline {entry : Text} (hblank : ¬ Blank entry)
    (hcall : Command.parse? entry = none) :
    Entry.action entry = .dump entry.trim ∧
      (leading entry ++ entry.trim ++ trailing entry = entry ∧ Blank (leading entry) ∧
        Blank (trailing entry) ∧
        ∀ c ∈ leading entry ++ trailing entry, InAlphabet c ↔ Spacing c) ∧
      Cursor.tokens entry =
        strangers 0 (leading entry) ++
          (Cursor.tokens entry.trim).map (Token.shift (byteLength (leading entry))) ++
          strangers (byteLength (leading entry) + byteLength entry.trim) (trailing entry) ∧
      (∀ (ctx : Context) (files : FileTree) (con : Console), con.Open →
        Entry.Compared entry ctx files con) ∧
      (Gap (leading entry) ∧ Gap (trailing entry) →
        (Console.warnings Log.Target.prompt entry.trim =
          ((Cursor.tokens entry.trim).filter fun t => t.kind = .illegal).map fun t =>
            Log.warningAt "monkey::repl".toList t.span.start t.text) ∧
          Console.warnings Log.Target.program entry =
            ((Cursor.tokens entry.trim).filter fun t => t.kind = .illegal).map fun t =>
              Log.warningAt "monkey".toList (byteLength (leading entry) + t.span.start) t.text) := by
  have hsplit := leading_append_trim_append entry
  have hfront := blank_leading entry
  have hback := blank_trailing entry
  have hne : entry.trim ≠ [] := fun hnil => hblank (trim_eq_nil_iff.mp hnil)
  have haction : Entry.action entry = .dump entry.trim :=
    Entry.action_eq_dump_iff.mpr ⟨rfl, hne, by rw [Command.parse?_trim, hcall]⟩
  refine ⟨haction, ⟨hsplit, hfront, hback, fun c hc => inAlphabet_iff_of_blank ?_⟩, ?_,
    fun ctx files con h => Entry.compared haction ctx files h, ?_⟩
  · exact hfront.append hback c hc
  · rw [Cursor.tokens_eq_scan, Cursor.tokens_eq_scan]
    exact scan_trim entry
  · rintro ⟨hpgap, hqgap⟩
    exact ⟨Console.warnings_eq _ _, Dump.warnings_trim hpgap hqgap _⟩

/-- An ideographic space before `@` is trimmed at the prompt and illegal in the arguments, so the
    two dumps differ.  Spaces of the scanner around it make no difference, except that the warning
    gives another offset. -/
theorem entry_versus_inline_space :
    (¬ Blank "\u3000@".toList ∧ Command.parse? "\u3000@".toList = none) ∧
      (¬ Blank " @\n".toList ∧ Command.parse? " @\n".toList = none) ∧
      Cursor.tokens "\u3000@".toList =
        [⟨.illegal, "\u3000".toList, ⟨0, 3⟩⟩, ⟨.illegal, "@".toList, ⟨3, 4⟩⟩] ∧
      (Console.warnings Log.Target.prompt "@".toList =
          [⟨.warn, "monkey::repl".toList, "illegal character".toList,
            [("offset".toList, ['0']), ("text".toList, "\"@\"".toList)], []⟩] ∧
        Console.warnings Log.Target.program " @\n".toList =
          [⟨.warn, "monkey".toList, "illegal character".toList,
            [("offset".toList, ['1']), ("text".toList, "\"@\"".toList)], []⟩]) ∧
      (Console.ofSink .unbounded).Open ∧
      ∀ (ctx : Context) (files : FileTree),
        (Entry.evaluate ctx "\u3000@".toList (.ofSink .unbounded)).2.out.contents ≠
            (Program.dumpSource ctx "\u3000@".toList files (.ofSink .unbounded)).out.contents ∧
          (Entry.evaluate ctx " @\n".toList (.ofSink .unbounded)).2.out.contents =
            (Program.dumpSource ctx " @\n".toList files (.ofSink .unbounded)).out.contents := by
  have hwide : ¬ Blank "\u3000@".toList ∧ Command.parse? "\u3000@".toList = none := by decide
  have hplain : ¬ Blank " @\n".toList ∧ Command.parse? " @\n".toList = none := by decide
  have hopen : (Console.ofSink .unbounded).Open := rfl
  obtain ⟨-, -, htokens, hdiffer, -⟩ := entry_versus_inline hwide.1 hwide.2
  obtain ⟨-, -, -, hsame, hwarned⟩ := entry_versus_inline hplain.1 hplain.2
  obtain ⟨hprompt, hprogram⟩ := hwarned (by decide)
  have htrim : Text.trim " @\n".toList = "@".toList := by decide
  rw [htrim] at hprompt hprogram
  refine ⟨hwide, hplain, ?_, ⟨?_, ?_⟩, hopen, fun ctx files => ⟨?_, ?_⟩⟩
  · rw [htokens]
    decide +kernel
  · rw [hprompt]
    decide +kernel
  · rw [hprogram]
    decide +kernel
  · rw [Ne, (hdiffer ctx files _ hopen).same_iff]
    decide
  · rw [(hsame ctx files _ hopen).same_iff]
    decide

end MonkeyTokens
