import MonkeyTokens.Proofs.Program.Legality
import MonkeyTokens.Proofs.Program.Options
import MonkeyTokens.Proofs.Program.Sessions

/-!
# A source in the arguments and a source in a file

A source can be given in the arguments or as a file.  Once the arguments are read, both lead to the
same dump: all that tells them apart is logged for debugging only.  But not every source is taken as
the value of its option.  One that starts with a hyphen is read as a flag, unless it is attached to
the option.

* `Invocation.on` — the program with other arguments; `Invocation.dumped` — what the dump of a
  source leaves;
* `run_of_spells`, `run_of_path` — the two ways to the dump of a source;
* `parse_of_not_isValue`, `run_of_refused` — a source that cannot be a value is refused;
* **`inline_iff_file`** — the two ways agree on the sources that can be a value, and on no others.
-/

namespace MonkeyTokens

open Console

/-! ## Sources that are refused -/

/-- Only what can be a value is taken as one. -/
lemma isValue_of_classify {argument value : Text} (h : Argument.classify argument = .plain value) :
    IsValue argument := by
  unfold Argument.classify at h
  split at h
  · cases h
  · simp only [Argument.classifyLong] at h
    split_ifs at h
    split at h <;> cases h
  · unfold Argument.classifyShort at h
    split_ifs at h
    split at h <;> cases h
  · next hshort =>
      match argument with
      | [] => exact .inr (by simp)
      | [c] =>
          by_cases hc : c = '-'
          · exact .inl (by rw [hc])
          · exact .inr (by simpa using hc)
      | c :: letter :: more =>
          refine .inr fun hhead => hshort letter more ?_
          rw [Option.some.inj hhead]

/-- **A source that cannot be a value** is refused after its option, whatever it looks like. -/
lemma parse_of_not_isValue {source : Text} (h : ¬ IsValue source) :
    ∃ usage, Options.parse ["-e".toList, source] = .error usage ∧ usage.exitStatus = 2 := by
  have hoption : Options.Reading.read .start "-e".toList =
      .ok ⟨.default, .eval none, false, false⟩ := rfl
  have hparse : Options.parse ["-e".toList, source] =
      (Options.Reading.readArgument (.classify source) ⟨.default, .eval none, false, false⟩).bind
        Options.Reading.finish := by
    rw [Options.parse, List.foldlM_cons, hoption]
    exact congrArg (·.bind Options.Reading.finish) (Options.Reading.foldlM_read_singleton _ source)
  rw [hparse]
  cases hclassify : Argument.classify source with
  | plain value => exact absurd (isValue_of_classify hclassify) h
  | escape => exact ⟨.invalidValue, rfl, rfl⟩
  | flag which => exact ⟨.invalidValue, rfl, rfl⟩
  | overfull => exact ⟨.tooManyValues, rfl, rfl⟩
  | unknown => exact ⟨.unknownArgument, rfl, rfl⟩
  | eval attached => cases attached <;> exact ⟨.invalidValue, rfl, rfl⟩

namespace Program

/-- The program with other arguments. -/
def Invocation.on (inv : Invocation) (arguments : List Text) : Invocation :=
  { inv with arguments }

/-- What the dump of a source leaves, in color, if the program logs what it does without being
    told. -/
def Invocation.dumped (inv : Invocation) (source : Text) : Outcome :=
  dumpSource ⟨true, ownFilter false, inv.foundFiles.readText⟩ source inv.foundFiles
    (.ofSink inv.out)

variable {inv : Invocation} {source path : Text} {arguments : List Text}

/-- Arguments that are refused are answered, and nothing is put out. -/
lemma run_of_refused {usage : Usage} (h : Options.parse arguments = .error usage)
    (hstatus : usage.exitStatus = 2) :
    (run (inv.on arguments)).exit = 2 ∧ (run (inv.on arguments)).out = inv.out := by
  have hrun : run (inv.on arguments) = answer usage inv.foundFiles (.ofSink inv.out) := by
    rw [run, Invocation.on, h]
    rfl
  rw [hrun]
  cases usage with
  | help | version => cases hstatus
  | unknownArgument | tooManyValues | invalidValue | argumentConflict =>
      exact ⟨rfl, LineWriter.close_ofSink inv.out⟩

/-! ## The two ways to a dump -/

/-- **A source in the arguments** is dumped, in every spelling of its option. -/
lemma run_of_spells (hfilter : inv.environment.logFilter = none)
    (h : Spells (.eval source) arguments) : run (inv.on arguments) = inv.dumped source := by
  have hparse : Options.parse arguments = .ok ⟨none, some source, false, false⟩ :=
    parse_of_spells h
  have hown := inv.environment.filter_of_none hfilter false
  rw [run, Invocation.on, hparse]
  simp only [hown]
  rfl

/-- **A source in a file** is dumped: that the file is about to be read is not logged. -/
lemma run_of_path (hfilter : inv.environment.logFilter = none) (hpath : IsValue path)
    (hbytes : inv.foundFiles.readBytes path = .ok source.encode) :
    run (inv.on [path]) = inv.dumped source := by
  have hne : path ≠ [] := by
    rintro rfl
    cases hbytes
  have hparse : Options.parse [path] = .ok ⟨some path, none, false, false⟩ :=
    parse_of_spells (.file hne hpath)
  have htext := readText_of_readBytes hbytes
  have hquiet : (ownFilter false).shows (readingFile path) = false := by
    rw [ownFilter, shows_ownUpTo]
    rfl
  have hown := inv.environment.filter_of_none hfilter false
  have hfound : (inv.on [path]).foundFiles = inv.foundFiles := rfl
  rw [run, hfound]
  simp only [Invocation.on, hparse, hown, dumpFile, htext, Console.log, hquiet]
  rfl

/-- A dump succeeds or fails, and has no other end. -/
lemma exit_dumped_le (inv : Invocation) (source : Text) : (inv.dumped source).exit ≤ 1 := by
  unfold Invocation.dumped dumpSource
  split
  · exact Nat.le_refl 1
  · next summary _ _ =>
      show summary.exitStatus ≤ 1
      unfold Dump.Summary.exitStatus
      split <;> decide

/-- A dump that nothing refuses is all there is on the output. -/
lemma contents_dumped (hout : Writer.Accepts inv.out) :
    (inv.dumped source).out.contents = inv.out.contents ++ (Dump.text true source).encode := by
  have hopen : (Console.ofSink inv.out).Open := Sink.accepts_iff.mp hout
  have hdump := contents_dumpSource hopen ⟨true, ownFilter false, inv.foundFiles.readText⟩ source
    inv.foundFiles
  rwa [contents_ofSink] at hdump

/-- The program without an environment, and `-5` in the file `f`. -/
def hyphenFile : Invocation :=
  .plain [] { entries := [(["f".toList], .file [45, 53])], input := [] }

lemma readBytes_hyphenFile :
    hyphenFile.foundFiles.readBytes "f".toList = .ok (Text.encode "-5".toList) := by
  decide +kernel

end Program

/-- **Sources in the arguments and sources in files.**  The program leaves the same whether a source
    is in a file or is given by its option, in any of the spellings there are for it; to an output
    that refuses nothing that is its dump in color.  But a source that follows its option by itself
    is refused, and nothing is put out, unless it can be a value. -/
theorem inline_iff_file {inv : Program.Invocation} {source path : Text}
    (hfilter : inv.environment.logFilter = none) (hpath : IsValue path)
    (hbytes : inv.foundFiles.readBytes path = .ok source.encode) :
    (∀ arguments, Spells (.eval source) arguments →
      Program.run (inv.on arguments) = Program.run (inv.on [path])) ∧
      (Writer.Accepts inv.out → (Program.run (inv.on [path])).out.contents =
        inv.out.contents ++ (Dump.text true source).encode) ∧
      (Program.run (inv.on ["-e".toList, source]) = Program.run (inv.on [path]) ↔
        IsValue source) ∧
      (¬ IsValue source →
        (Program.run (inv.on ["-e".toList, source])).exit = 2 ∧
          (Program.run (inv.on ["-e".toList, source])).out = inv.out) := by
  have hfile := Program.run_of_path hfilter hpath hbytes
  have hspells : ∀ arguments, Spells (.eval source) arguments →
      Program.run (inv.on arguments) = Program.run (inv.on [path]) := by
    intro arguments h
    rw [hfile, Program.run_of_spells hfilter h]
  have hrefused : ¬ IsValue source → (Program.run (inv.on ["-e".toList, source])).exit = 2 ∧
      (Program.run (inv.on ["-e".toList, source])).out = inv.out := by
    intro h
    obtain ⟨usage, hparse, hstatus⟩ := parse_of_not_isValue h
    exact Program.run_of_refused hparse hstatus
  refine ⟨hspells, fun hout => ?_, ⟨fun heq => ?_, fun h => hspells _ (.short h)⟩, hrefused⟩
  · rw [hfile, Program.contents_dumped hout]
  · by_contra h
    -- a refusal ends with a status that no dump ends with
    have hexit := (hrefused h).1
    have hle := Program.exit_dumped_le inv source
    rw [heq, hfile] at hexit
    omega

/-- `-5` in the file `f`: attached to its option it gives the same as the file, by itself it is
    refused. -/
theorem inline_iff_file_hyphen :
    (Program.hyphenFile.environment.logFilter = none ∧ IsValue "f".toList ∧
        Program.hyphenFile.foundFiles.readBytes "f".toList = .ok (Text.encode "-5".toList)) ∧
      Program.run (Program.hyphenFile.on ["-e=-5".toList]) =
        Program.run (Program.hyphenFile.on ["f".toList]) ∧
      (Program.run (Program.hyphenFile.on ["f".toList])).out.contents =
        (Dump.text true "-5".toList).encode ∧
      Program.run (Program.hyphenFile.on ["-e".toList, "-5".toList]) ≠
        Program.run (Program.hyphenFile.on ["f".toList]) ∧
      (Program.run (Program.hyphenFile.on ["-e".toList, "-5".toList])).exit = 2 := by
  have hfilter : Program.hyphenFile.environment.logFilter = none := rfl
  have hpath : IsValue "f".toList := by decide
  have hhyphen : ¬ IsValue "-5".toList := by decide
  obtain ⟨hsame, hdump, hiff, hrefused⟩ :=
    inline_iff_file hfilter hpath Program.readBytes_hyphenFile
  exact ⟨⟨hfilter, hpath, Program.readBytes_hyphenFile⟩, hsame _ (.shortEquals "-5".toList),
    hdump (Sink.accepts_iff.mpr rfl), fun heq => hhyphen (hiff.mp heq), (hrefused hhyphen).1⟩

/-- The two ways do not agree on every source: `-5` is refused after its option, with a status that
    no dump ends with. -/
theorem not_forall_inline_eq_file :
    ¬ ∀ (inv : Program.Invocation) (source path : Text), inv.environment.logFilter = none →
      IsValue path → inv.foundFiles.readBytes path = .ok source.encode →
      Program.run (inv.on ["-e".toList, source]) = Program.run (inv.on [path]) := by
  intro h
  have hpath : IsValue "f".toList := by decide
  have hhyphen : ¬ IsValue "-5".toList := by decide
  have hsame := h Program.hyphenFile "-5".toList "f".toList rfl hpath Program.readBytes_hyphenFile
  obtain ⟨usage, hparse, hstatus⟩ := parse_of_not_isValue hhyphen
  have hrefused : (Program.run (Program.hyphenFile.on ["-e".toList, "-5".toList])).exit = 2 ∧ _ :=
    Program.run_of_refused hparse hstatus
  have hexit := hrefused.1
  have hle := Program.exit_dumped_le Program.hyphenFile "-5".toList
  rw [hsame, Program.run_of_path rfl hpath Program.readBytes_hyphenFile] at hexit
  omega

end MonkeyTokens
