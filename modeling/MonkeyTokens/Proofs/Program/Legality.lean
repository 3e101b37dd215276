import MonkeyTokens.Program.Run
import MonkeyTokens.Proofs.Program.Console
import MonkeyTokens.Proofs.Program.Options
import MonkeyTokens.Proofs.Text.Bytes
import MonkeyTokens.Proofs.Token.Alphabet

/-!
# Which sources the program accepts

A dump reports the illegal characters of its source: those outside the alphabet, and no others.
The exit status of the program rests on that report.

* `Dump.illegal_ofTokens_scan` — the summary of a dump, in terms of the alphabet alone;
* `Program.Given` — the program is given a source to dump, in its arguments or as a file;
* `Program.dumpSource_eq` — how the dump of one source ends;
* **`illegal_report_exact`** — summaries and exit status depend on the alphabet alone.
-/

namespace MonkeyTokens

open Grammar Text

/-! ## Summaries -/

namespace Dump

/-- The illegal tokens of a dump are the strangers of its source. -/
lemma illegal_ofTokens_scan (source : Text) :
    (Summary.ofTokens (scan source)).illegal = strangers 0 source :=
  (scanned_scanFrom 0 source).filter_isIllegal

/-- A dump is clean exactly when its source is within the alphabet. -/
lemma isClean_ofTokens_scan (source : Text) :
    (Summary.ofTokens (scan source)).isClean = true ↔ AllInAlphabet source := by
  rw [Summary.isClean, illegal_ofTokens_scan, List.isEmpty_iff, strangers_eq_nil_iff]

lemma exitStatus_ofTokens_scan (source : Text) :
    (Summary.ofTokens (scan source)).exitStatus =
      if AllInAlphabet source then 0 else 1 := by
  simp only [Summary.exitStatus, isClean_ofTokens_scan]

end Dump

/-! ## The program -/

namespace Program

/-- The program is given a source to dump: by its option, in any spelling, or as the bytes of a file
    that the arguments name.  Flags can stand anywhere among them. -/
inductive Given (inv : Invocation) (source : Text) (verbose : Bool) : Prop
  | inline {noColor : Bool} {wishes : List Wish} :
      wishes.Perm (Options.mk none (some source) noColor verbose).wishes →
      SpellsAll wishes inv.arguments → Given inv source verbose
  | file {path : Text} {noColor : Bool} {wishes : List Wish} :
      wishes.Perm (Options.mk (some path) none noColor verbose).wishes →
      SpellsAll wishes inv.arguments → inv.foundFiles.readBytes path = .ok source.encode →
      Given inv source verbose

/-- The text of a file whose bytes are those of a text. -/
lemma readText_of_readBytes {files : FileTree} {path source : Text}
    (h : files.readBytes path = .ok source.encode) : files.readText path = .ok source := by
  rw [FileTree.readText, h]
  simp only [decode?_encode]

/-- What is said at the end about the characters outside the alphabet: how many there are, after a
    word in bold red. -/
def verdict (source : Text) : List Text :=
  if AllInAlphabet source then []
  else
    ["\x1b[1m\x1b[31mError\x1b[39m\x1b[0m: ".toList ++
      Nat.toDigits 10 (source.filter fun c => ¬ InAlphabet c).length ++
      " illegal character(s) in input".toList]

/-- The word before an error, letter by letter. -/
lemma errorTag_append : Console.errorTag ++ ": ".toList =
    "\x1b[1m\x1b[31mError\x1b[39m\x1b[0m: ".toList := by
  decide

/-- **The dump of one source** ends with the status and the verdict on its characters.  Before the
    verdict stand the lines that are logged. -/
theorem dumpSource_eq {con : Console} (h : con.Open) (ctx : Context) (source : Text)
    (files : FileTree) :
    (dumpSource ctx source files con).exit = (if AllInAlphabet source then 0 else 1) ∧
      (dumpSource ctx source files con).err = con.err ++
        Console.shown ctx.filter (Console.dumpEvents Log.Target.program source) ++
        verdict source := by
  obtain ⟨after, hdump, hemits⟩ := Console.exists_dump h ctx Log.Target.program source
  have hcount : (Dump.Summary.ofTokens (scan source)).illegal.length =
      (source.filter fun c => ¬ InAlphabet c).length := by
    rw [Dump.illegal_ofTokens_scan, length_strangers]
  rw [dumpSource, hdump]
  refine ⟨Dump.exitStatus_ofTokens_scan source, ?_⟩
  rw [← hemits.err, verdict, ← errorTag_append]
  simp only [leave, Dump.isClean_ofTokens_scan, hcount]
  split
  · rw [List.append_nil]
  · rfl

/-- The dump of one source is all that is put out. -/
lemma contents_dumpSource {con : Console} (h : con.Open) (ctx : Context) (source : Text)
    (files : FileTree) :
    (dumpSource ctx source files con).out.contents =
      con.out.contents ++ (Dump.text ctx.color source).encode := by
  obtain ⟨after, hdump, hemits⟩ := Console.exists_dump h ctx Log.Target.program source
  rw [dumpSource, hdump, ← hemits.out, ← LineWriter.contents_close hemits.isOpen]
  simp only [leave]
  split <;> rfl

/-- A program that is given a source ends with the status and the verdict on its characters.  Before
    the verdict it logs that it reads a file, if it does, and what it sees in the source. -/
theorem run_of_given {inv : Invocation} {source : Text} {verbose : Bool} {filter : Log.Filter}
    (hgiven : Given inv source verbose) (hfilter : inv.environment.filter verbose = .ok filter)
    (hout : Writer.Accepts inv.out) :
    (run inv).exit = (if AllInAlphabet source then 0 else 1) ∧
      ∃ reading : List Log.Event, (∀ event ∈ reading, event.level = .debug) ∧
        (run inv).err =
          Console.shown filter (reading ++ Console.dumpEvents Log.Target.program source) ++
            verdict source := by
  have hopen : (Console.ofSink inv.out).Open := Sink.accepts_iff.mp hout
  cases hgiven with
  | @inline noColor wishes hperm hspells =>
      rw [run, parse_of_perm (.inl rfl) hperm hspells]
      simp only [hfilter]
      have hend := dumpSource_eq hopen ⟨!noColor, filter, inv.foundFiles.readText⟩ source
        inv.foundFiles
      exact ⟨hend.1, [], by simp, hend.2⟩
  | @file path noColor wishes hperm hspells hbytes =>
      have htext := readText_of_readBytes hbytes
      rw [run, parse_of_perm (.inr rfl) hperm hspells]
      simp only [hfilter, dumpFile, htext]
      have hlog := Console.emits_log hopen ⟨!noColor, filter, inv.foundFiles.readText⟩
        (readingFile path)
      have hend := dumpSource_eq hlog.isOpen ⟨!noColor, filter, inv.foundFiles.readText⟩ source
        inv.foundFiles
      refine ⟨hend.1, [readingFile path], by simp [readingFile], ?_⟩
      rw [hend.2, hlog.err]
      simp only [Console.shown, Console.ofSink, List.nil_append, ← List.map_append,
        ← List.filter_append]

/-- The program without an environment, on the given files. -/
def Invocation.plain (arguments : List Text) (files : FileTree) : Invocation :=
  { arguments
    environment := ⟨none, none, none, none, ⟨['.'], []⟩⟩
    input := .piped []
    files
    out := .unbounded }

end Program

/-! ## The report is exact -/

/-- **The report on illegal characters is exact.**  To any destination that refuses nothing, a dump
    is written whole; its illegal tokens are one for each character outside the alphabet, wherever
    that character stands; and it is clean, and the program succeeds on it, exactly when there is
    none.  Otherwise the program says how many there are, after what it logs. -/
theorem illegal_report_exact (source : Text) :
    (∀ (ω : Type) [Writer ω] (color : Bool) (out : ω), Writer.Accepts out →
      ∃ summary, (Dump.write color source out).1 = .ok summary ∧
        summary.illegal = strangers 0 source ∧
        (summary.isClean = true ↔ AllInAlphabet source) ∧
        summary.exitStatus = if AllInAlphabet source then 0 else 1) ∧
      ∀ (inv : Program.Invocation) (verbose : Bool) (filter : Log.Filter),
        Program.Given inv source verbose →
        inv.environment.filter verbose = .ok filter → Writer.Accepts inv.out →
        (Program.run inv).exit = (if AllInAlphabet source then 0 else 1) ∧
          ∃ reading : List Log.Event, (∀ event ∈ reading, event.level = .debug) ∧
            (Program.run inv).err =
              Console.shown filter (reading ++ Console.dumpEvents Log.Target.program source) ++
                if AllInAlphabet source then []
                else
                  ["\x1b[1m\x1b[31mError\x1b[39m\x1b[0m: ".toList ++
                    Nat.toDigits 10 (source.filter fun c => ¬ InAlphabet c).length ++
                    " illegal character(s) in input".toList] := by
  constructor
  · intro ω _ color out hout
    exact ⟨_, Dump.write_of_accepts hout color source, Dump.illegal_ofTokens_scan source,
      Dump.isClean_ofTokens_scan source, Dump.exitStatus_ofTokens_scan source⟩
  · intro inv verbose filter hgiven hfilter hout
    exact Program.run_of_given hgiven hfilter hout

/-- The program without an environment, and `5@λ` in the file `f`. -/
def Program.strangersFile (arguments : List Text) : Program.Invocation :=
  .plain arguments { entries := [(["f".toList], .file [53, 64, 206, 187])], input := [] }

/-- `5@λ` has two illegal characters, of one byte and of two.  As a file and by its option, between
    two flags, it makes the program fail with that number. -/
theorem illegal_report_exact_two :
    Writer.Accepts Sink.unbounded ∧
      (∃ summary, (Dump.write true "5@λ".toList Sink.unbounded).1 = .ok summary ∧
        summary.illegal =
          [⟨.illegal, ['@'], ⟨1, 2⟩⟩, ⟨.illegal, ['λ'], ⟨2, 4⟩⟩]) ∧
      ∀ arguments ∈ [["f".toList],
          ["--no-color".toList, "-e".toList, "5@λ".toList, "--verbose".toList]],
        (Program.run (Program.strangersFile arguments)).exit = 1 ∧
          (Program.run (Program.strangersFile arguments)).err.getLast? =
            some "\x1b[1m\x1b[31mError\x1b[39m\x1b[0m: 2 illegal character(s) in input".toList := by
  have hout : Writer.Accepts Sink.unbounded := Sink.accepts_iff.mpr rfl
  have hbytes : (Program.strangersFile ["f".toList]).foundFiles.readBytes "f".toList =
      .ok (encode "5@λ".toList) := by decide +kernel
  have hpath : SpellsAll [.file "f".toList] ["f".toList] :=
    .cons (.file (by decide) (by decide)) .nil
  have hfile : Program.Given (Program.strangersFile ["f".toList]) "5@λ".toList false :=
    @Program.Given.file _ _ _ "f".toList false _ (.refl _) hpath hbytes
  have hsource : SpellsAll [.noColor, .eval "5@λ".toList, .verbose]
      ["--no-color".toList, "-e".toList, "5@λ".toList, "--verbose".toList] :=
    .cons .noColor (.cons (.short (by decide)) (.cons .verbose .nil))
  have hinline : Program.Given (Program.strangersFile
      ["--no-color".toList, "-e".toList, "5@λ".toList, "--verbose".toList]) "5@λ".toList true :=
    @Program.Given.inline _ _ _ true _ (by decide) hsource
  obtain ⟨hdump, hrun⟩ := illegal_report_exact "5@λ".toList
  obtain ⟨summary, hok, hillegal, -⟩ := hdump Sink true .unbounded hout
  have hlist : strangers 0 "5@λ".toList =
      [⟨.illegal, ['@'], ⟨1, 2⟩⟩, ⟨.illegal, ['λ'], ⟨2, 4⟩⟩] := by decide
  have hillegal' : ¬ AllInAlphabet "5@λ".toList := by decide
  have hcount : Nat.toDigits 10 ("5@λ".toList.filter fun c => ¬ InAlphabet c).length =
      ['2'] := by decide
  refine ⟨hout, ⟨summary, hok, hillegal.trans hlist⟩, fun arguments harguments => ?_⟩
  obtain ⟨verbose, filter, hgiven, hfilter⟩ : ∃ verbose filter,
      Program.Given (Program.strangersFile arguments) "5@λ".toList verbose ∧
        (Program.strangersFile arguments).environment.filter verbose = .ok filter := by
    rcases List.mem_pair.mp harguments with rfl | rfl
    · exact ⟨false, _, hfile, rfl⟩
    · exact ⟨true, _, hinline, rfl⟩
  obtain ⟨hexit, reading, -, herr⟩ := hrun _ verbose filter hgiven hfilter hout
  rw [if_neg hillegal'] at hexit
  rw [if_neg hillegal', hcount] at herr
  exact ⟨hexit, by rw [herr, List.getLast?_concat]; rfl⟩

end MonkeyTokens
