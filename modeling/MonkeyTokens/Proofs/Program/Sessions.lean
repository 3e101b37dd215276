import MonkeyTokens.Program.Run
import MonkeyTokens.Proofs.History.Store
import MonkeyTokens.Proofs.Program.Legality
import MonkeyTokens.Proofs.Session.Entries

/-!
# Sessions compose

A session on one input followed by another is the session on the first, without its end, followed
by the session on the second, without its opening.

**One run.**  What a session leaves is told by what its lines add (`Invocation.tells_of_hears`): its
opening, that, and its end.  If the history cannot be saved (`Invocation.CanSave`), a warning is the
last line on the error channel.  There is something to save only if the history file could not be
read to its end.

**Several runs.**  Each finds its own input among the files.  What a start finds does not depend on
it, unless the history file is the input (`Invocation.restored_fed`), and neither does what lines
add to the console, unless one of them loads the input (`Invocation.exists_hears_fed`).  So what
two inputs add one after the other is known from what they add by themselves
(`Invocation.exists_tells_append`, `Invocation.exists_tells_over`).

**`sessions_compose`** puts two sessions together.  The opening is the banner.  On the few kinds of
terminal where entries are asked for even if they are piped, the first question belongs to it: a
question stands before each entry, and the last one of the first session is the first one of the
second.  `not_forall_sessions_compose` shows that neither the warning nor the question can be left
out of account, and that a session does not end well on every number of brackets.
-/

namespace MonkeyTokens

open Console

namespace Program

/-! ## What the program does not log -/

/-- Without a log filter in the surroundings the program has its own. -/
lemma Environment.filter_of_none (env : Environment) (h : env.logFilter = none) (verbose : Bool) :
    env.filter verbose = .ok (ownFilter verbose) := by
  rw [Environment.filter, h]
  rfl

/-- A filter for the program's own events shows those of its targets up to a level. -/
lemma shows_ownUpTo (level : Log.Level) (event : Log.Event) :
    (Log.Filter.ownUpTo level).shows event =
      ("monkey".toList.isPrefixOf event.target && decide (event.level.rank ≤ level.rank)) := by
  have hfor : (⟨"monkey".toList, none, level.rank⟩ : Log.Directive).isFor event =
      "monkey".toList.isPrefixOf event.target := by
    simp [Log.Directive.isFor]
  rw [Log.Filter.ownUpTo, Log.Filter.shows, Log.Filter.directiveFor?, Log.Filter.directiveFor?]
  simp only [hfor]
  cases "monkey".toList.isPrefixOf event.target <;> rfl

/-- Without being told the program logs nothing for debugging, and nothing of the line editor. -/
lemma shown_eq_nil {events : List Log.Event}
    (h : ∀ event ∈ events, event.level = .debug ∨ event.target = Log.Target.lineEditor) :
    shown (ownFilter false) events = [] := by
  have hquiet : ∀ event ∈ events, ¬ (ownFilter false).shows event = true := by
    intro event hevent
    rw [ownFilter, shows_ownUpTo]
    rcases h event hevent with hlevel | htarget
    · rw [hlevel]
      simp [Log.Level.rank]
    · rw [htarget]
      have hother : "monkey".toList.isPrefixOf Log.Target.lineEditor = false := by decide
      rw [hother, Bool.false_and]
      exact Bool.false_ne_true
  rw [shown, List.filter_eq_nil_iff.mpr hquiet]
  rfl

/-- That the history cannot be saved is logged without being told. -/
lemma shown_notSaved (store : History.Store) (cause : SystemError) :
    shown (ownFilter false) [store.notSaved cause] = [(store.notSaved cause).line] := by
  have hshows : (ownFilter false).shows (store.notSaved cause) = true := by
    rw [ownFilter, shows_ownUpTo]
    rfl
  rw [shown, List.filter_cons_of_pos hshows]
  rfl

lemma line_notSaved (store : History.Store) (cause : SystemError) :
    (store.notSaved cause).line =
      " WARN monkey::repl: failed to save history path=".toList ++ store.path ++
        " error=".toList ++ cause.message := by
  have hpath : " WARN monkey::repl: failed to save history path=".toList =
      " WARN".toList ++ " ".toList ++ "monkey::repl".toList ++ ": ".toList ++
        "failed to save history".toList.flatMap Log.shownCharacter ++
          (" ".toList ++ "path".toList ++ "=".toList) := by decide
  have herror : " error=".toList = " ".toList ++ "error".toList ++ "=".toList := by decide
  have hline : (store.notSaved cause).line =
      " WARN".toList ++ " ".toList ++ "monkey::repl".toList ++ ": ".toList ++
        "failed to save history".toList.flatMap Log.shownCharacter ++
          ((" ".toList ++ "path".toList ++ "=".toList ++ store.path) ++
            ((" ".toList ++ "error".toList ++ "=".toList ++ cause.message) ++ [])) := rfl
  rw [hline, hpath, herror]
  generalize "failed to save history".toList.flatMap Log.shownCharacter = message
  simp only [List.append_assoc, List.append_nil]

lemma contents_ofSink (out : Sink) : (Console.ofSink out).out.contents = out.contents :=
  List.append_nil _

/-! ## One run -/

namespace Invocation

/-- What a start finds. -/
def restored (inv : Invocation) : History.Store.Restored :=
  inv.environment.store.restore inv.foundFiles

/-- Output is in color. -/
def color (inv : Invocation) : Bool :=
  match Options.parse inv.arguments with
  | .ok options => !options.noColor
  | .error _ => true

/-- A session shows what the program logs without being told. -/
def context (inv : Invocation) : Context :=
  ⟨inv.color, ownFilter false, inv.foundFiles.readText⟩

/-- Files are read as they are after the start. -/
def promptContext (inv : Invocation) : Context :=
  { inv.context with readFile := inv.restored.files.readText }

/-- The session after its start, with the banner and the first question. -/
def started (inv : Invocation) : Flow × Piped.State :=
  Piped.start inv.promptContext inv.environment.asks inv.environment.greeted
    ((Console.ofSink inv.out).logAll inv.context inv.restored.events)

/-- The session when all lines of its input are read, before their end is. -/
def afterLines (inv : Invocation) : Flow × Piped.State :=
  Piped.goOn inv.started
    (Piped.feedAll inv.promptContext inv.environment.asks (rawLines inv.inputBytes))

/-- The session once the end of its input is read too. -/
def closed (inv : Invocation) : Flow × Piped.State :=
  Piped.goOn inv.afterLines Piped.close

/-- The session ends with its input, and nothing is unfinished then. -/
def EndsOpen (inv : Invocation) : Prop :=
  inv.afterLines.1 = .proceed ∧ inv.afterLines.2.unfinished = []

/-- The session is ended by a command. -/
def EndsByExit (inv : Invocation) : Prop :=
  inv.afterLines.1 = .quit

/-- The banner, and the first question if entries are asked for. -/
def opening (inv : Invocation) : Text :=
  lineText (Page.banner inv.environment.greeted) ++ Piped.question inv.environment.asks

/-- What is said at the end if the history has to be saved and cannot be. -/
def unsaved (inv : Invocation) : List Text :=
  match inv.environment.store.save inv.restored.history inv.restored.files with
  | .ok _ => []
  | .error refused =>
    [" WARN monkey::repl: failed to save history path=".toList ++ inv.environment.store.path ++
      " error=".toList ++ refused.cause.message]

/-- The history can be saved, or there is nothing to save. -/
def CanSave (inv : Invocation) : Prop :=
  inv.restored.history.unsaved = false ∨
    ∃ saved, inv.environment.store.save inv.restored.history inv.restored.files = .ok saved

variable {inv : Invocation}

lemma unsaved_eq_nil (h : inv.CanSave) : inv.unsaved = [] := by
  rcases h with hsaved | ⟨saved, hsave⟩
  · rw [unsaved, History.Store.save, hsaved]
    rfl
  · rw [unsaved, hsave]

/-- **A run** without a source is a session and its end. -/
theorem run_eq_endSession {noColor : Bool} {bytes : List UInt8}
    (hoptions : Options.parse inv.arguments = .ok ⟨none, none, noColor, false⟩)
    (hfilter : inv.environment.logFilter = none) (hinput : inv.input = .piped bytes) :
    run inv = endSession inv.promptContext inv.environment inv.closed.1 inv.restored.history
      inv.restored.files inv.closed.2.console := by
  have hown := inv.environment.filter_of_none hfilter false
  have hcontext : inv.context = ⟨!noColor, ownFilter false, inv.foundFiles.readText⟩ := by
    rw [context, color, hoptions]
  have hprompt : run inv = runPrompt inv.context inv.environment (.piped bytes) inv.foundFiles
      (.ofSink inv.out) := by
    rw [run, hoptions, hcontext]
    simp only [hown, hinput]
  have hsession : Piped.run inv.promptContext inv.environment.asks inv.environment.greeted bytes
      ((Console.ofSink inv.out).logAll inv.context inv.restored.events) =
        (inv.closed.1, inv.closed.2.console) := by
    rw [Piped.run, closed, afterLines, started, inputBytes, hinput]
  unfold promptContext restored at hsession
  rw [hprompt, runPrompt]
  simp only [hsession]
  rfl

/-- The program holds a session and logs what it does without being told: the arguments name no
    source, and output is never refused. -/
structure Converses (inv : Invocation) : Prop where
  options : ∃ noColor, Options.parse inv.arguments = .ok ⟨none, none, noColor, false⟩
  logFilter : inv.environment.logFilter = none
  out : Writer.Accepts inv.out

/-- A start is quiet, and shows the opening. -/
lemma exists_start (h : inv.Converses) :
    ∃ con, inv.started = (.proceed, ⟨[], con⟩) ∧ Emits (.ofSink inv.out) con inv.opening [] := by
  have hopen : (Console.ofSink inv.out).Open := Sink.accepts_iff.mp h.out
  have hlog := emits_logAll hopen inv.context inv.restored.events
  have hrestored : shown inv.context.filter inv.restored.events = [] :=
    shown_eq_nil fun event hevent => History.Store.quiet_restore hevent
  rw [hrestored] at hlog
  obtain ⟨greeted, hsay, hgreeted⟩ :=
    exists_say hlog.isOpen (Page.banner inv.environment.greeted)
  obtain ⟨asked, hask, hasked⟩ :=
    Piped.exists_ask hgreeted.isOpen inv.promptContext inv.environment.asks
  have hreading :
      shown inv.promptContext.filter [Piped.readingLines inv.environment.asks] = [] :=
    shown_eq_nil fun event hevent => .inl (by rw [List.mem_singleton.mp hevent]; rfl)
  rw [hreading] at hasked
  refine ⟨asked, ?_, (hlog.trans hgreeted).trans hasked⟩
  rw [started, Piped.start, hsay]
  simp only [Piped.goOn, hask]

/-- A session that ends as it should saves the history, or says that it cannot. -/
lemma closeSession_save {con : Console} (hopen : con.Open) :
    let outcome := closeSession inv.promptContext inv.environment
      (inv.environment.store.save inv.restored.history inv.restored.files) con
    outcome.exit = 0 ∧ outcome.out.contents = con.out.contents ∧
      outcome.err = con.err ++ inv.unsaved := by
  simp only [unsaved, closeSession]
  cases inv.environment.store.save inv.restored.history inv.restored.files with
  | ok saved => exact ⟨rfl, LineWriter.contents_close hopen, (List.append_nil _).symm⟩
  | error refused =>
      have hlog := emits_log hopen inv.promptContext
        (inv.environment.store.notSaved refused.cause)
      have hfilter : inv.promptContext.filter = ownFilter false := rfl
      rw [hfilter, shown_notSaved, line_notSaved] at hlog
      refine ⟨rfl, ?_, hlog.err⟩
      have hcontents := hlog.out
      rw [Text.encode_nil, List.append_nil] at hcontents
      exact (LineWriter.contents_close hlog.isOpen).trans hcontents

/-- What stands on the output at the end of a session, unless it was over before its input. -/
def ending (flow : Flow) : Text :=
  if flow = .proceed then "\x1b[2m^D\x1b[0m\n".toList else []

/-- A session that goes on until its input ends says so.  Then it is over. -/
lemma exists_closed {flow : Flow} {rest : Text} {last : Console}
    (hflow : flow = .proceed ∨ flow = .quit ∨ flow = .crash) (hopen : last.Open)
    (hafter : inv.afterLines = (flow, ⟨rest, last⟩)) :
    ∃ left con, inv.closed = (if flow = .crash then .crash else .quit, ⟨left, con⟩) ∧
      Emits last con (ending flow) [] := by
  rw [closed, hafter]
  rcases hflow with rfl | rfl | rfl
  · obtain ⟨con, hsay, hemits⟩ := exists_say hopen [Page.ended]
    have htext : lineText [Page.ended] = ending .proceed := by decide
    rw [htext] at hemits
    refine ⟨[], con, ?_, hemits⟩
    rw [Piped.goOn, Piped.close, hsay]
    rfl
  · exact ⟨rest, last, rfl, .refl hopen⟩
  · exact ⟨rest, last, rfl, .refl hopen⟩

/-- What a session leaves whose lines add `said` to the output and `err` to the error channel, and
    leave it as `flow` says with `rest` unfinished. -/
structure Tells (inv : Invocation) (flow : Flow) (rest said : Text) (err : List Text) : Prop where
  goesOn : inv.afterLines.1 = flow
  unfinished : inv.afterLines.2.unfinished = rest
  exit : (run inv).exit = if flow = .crash then crashStatus else 0
  out : (run inv).out.contents =
    inv.out.contents ++ (inv.opening ++ said ++ ending flow).encode
  err : (run inv).err = err ++ if flow = .crash then [] else inv.unsaved

/-- **What a session leaves** is told by what its lines add to the console. -/
theorem tells_of_hears (h : inv.Converses) {input rest said : Text} {flow : Flow}
    {err : List Text} (hinput : inv.input = .piped input.encode)
    (hflow : flow = .proceed ∨ flow = .quit ∨ flow = .crash)
    (hhears : Piped.Hears inv.promptContext inv.environment.asks [] (textLines input)
      flow rest said err) : inv.Tells flow rest said err := by
  obtain ⟨start, hstarted, hstart⟩ := exists_start h
  obtain ⟨last, hfeed, hlast⟩ := hhears start hstart.isOpen
  have hafter : inv.afterLines = (flow, ⟨rest, last⟩) := by
    rw [afterLines, hstarted, inputBytes, hinput, rawLines_encode]
    exact hfeed
  obtain ⟨left, con, hclosed, hend⟩ := exists_closed hflow hlast.isOpen hafter
  have hall := (hstart.trans hlast).trans hend
  obtain ⟨noColor, hoptions⟩ := h.options
  have hrun := run_eq_endSession hoptions h.logFilter hinput
  rw [hclosed] at hrun
  suffices hleft : (run inv).exit = (if flow = .crash then crashStatus else 0) ∧
      (run inv).out.contents = con.out.contents ∧
        (run inv).err = con.err ++ if flow = .crash then [] else inv.unsaved by
    obtain ⟨hexit, hout, herr⟩ := hleft
    refine ⟨by rw [hafter], by rw [hafter], hexit, ?_, ?_⟩
    · rw [hout, hall.out, contents_ofSink]
    · rw [herr, hall.err]
      simp [Console.ofSink]
  rw [hrun]
  by_cases hcrash : flow = .crash
  · simp only [hcrash, if_true, List.append_nil]
    exact ⟨rfl, LineWriter.contents_close hend.isOpen, rfl⟩
  · simp only [hcrash, if_false]
    exact closeSession_save hend.isOpen

/-! ## One program on several inputs -/

/-- The program with other input, which is piped in. -/
def fed (inv : Invocation) (input : Text) : Invocation :=
  { inv with input := .piped input.encode }

/-- An entry of the input loads the input itself. -/
def LoadsItself (inv : Invocation) (input : Text) : Prop :=
  ∃ path ∈ (Piped.course [] (textLines input)).loads, inv.restored.files.ReadsInput path

instance (inv : Invocation) (input : Text) : Decidable (inv.LoadsItself input) :=
  inferInstanceAs (Decidable (∃ path ∈ _, _))

/-- What is remembered is read from the input: the history file is the input itself. -/
def RemembersInput (inv : Invocation) : Prop :=
  inv.restored.files.NamesInput inv.environment.store.fileNames

instance (inv : Invocation) : Decidable inv.RemembersInput :=
  inferInstanceAs (Decidable (FileTree.NamesInput _ _))

lemma Converses.fed (h : inv.Converses) (input : Text) : (inv.fed input).Converses :=
  ⟨h.options, h.logFilter, h.out⟩

/-- **What a start finds** does not depend on the input. -/
lemma restored_fed (h : ¬ inv.RemembersInput) (input : Text) :
    (inv.fed input).restored =
      { inv.restored with files := inv.restored.files.withInput input.encode } :=
  History.Store.restore_withInput h input.encode

lemma unsaved_fed (h : ¬ inv.RemembersInput) (input : Text) : (inv.fed input).unsaved = inv.unsaved := by
  have hsave := inv.environment.store.save_withInput inv.restored.history inv.restored.files
    input.encode
  have hstore : (inv.fed input).environment = inv.environment := rfl
  rw [unsaved, unsaved, restored_fed h, hstore]
  simp only [hsave]
  cases inv.environment.store.save inv.restored.history inv.restored.files <;> rfl

/-- **What lines add** does not depend on the input, unless they load it. -/
lemma exists_hears_fed (h : ¬ inv.RemembersInput) {input : Text} (hinput : Text.backspace ∉ input)
    (hloads : ¬ inv.LoadsItself input) :
    ∃ said err, ∀ whole, Piped.Hears (inv.fed whole).promptContext inv.environment.asks []
      (textLines input) (Piped.course [] (textLines input)).flow
      (Piped.course [] (textLines input)).rest said err := by
  have hlines := notMem_of_mem_textLines hinput
  obtain ⟨said, err, hhears⟩ := Piped.exists_hears inv.promptContext inv.environment.asks
    (textLines input) [] (by simp) hlines
  refine ⟨said, err, fun whole => ?_⟩
  have hcontext : (inv.fed whole).promptContext =
      { inv.promptContext with
        readFile := (inv.restored.files.withInput whole.encode).readText } := by
    rw [promptContext, restored_fed h]
    rfl
  rw [hcontext]
  refine hhears _ fun path hpath => FileTree.readText_withInput ?_ whole.encode
  exact fun hreads => hloads ⟨path, hpath, hreads⟩

/-- The session on an input is told by its course. -/
lemma exists_tells (h : inv.Converses) {input : Text} (hinput : Text.backspace ∉ input) :
    ∃ said err, (inv.fed input).Tells (Piped.course [] (textLines input)).flow
      (Piped.course [] (textLines input)).rest said err := by
  have hlines := notMem_of_mem_textLines hinput
  obtain ⟨said, err, hhears⟩ := Piped.exists_hears (inv.fed input).promptContext
    inv.environment.asks (textLines input) [] (by simp) hlines
  exact ⟨said, err, tells_of_hears (h.fed input) rfl (Piped.course_flow_cases _ _)
    (hhears _ fun path _ => rfl)⟩

/-- A session ends with nothing unfinished exactly when its course says so. -/
theorem endsOpen_iff (h : inv.Converses) {input : Text} (hinput : Text.backspace ∉ input) :
    (inv.fed input).EndsOpen ↔ (Piped.course [] (textLines input)).flow = .proceed ∧
      (Piped.course [] (textLines input)).rest = [] := by
  obtain ⟨said, err, htells⟩ := exists_tells h hinput
  rw [EndsOpen, htells.goesOn, htells.unfinished]

/-- A session is ended by a command exactly when its course says so. -/
theorem endsByExit_iff (h : inv.Converses) {input : Text} (hinput : Text.backspace ∉ input) :
    (inv.fed input).EndsByExit ↔ (Piped.course [] (textLines input)).flow = .quit := by
  obtain ⟨said, err, htells⟩ := exists_tells h hinput
  rw [EndsByExit, htells.goesOn]

/-- Without input there is nothing that can be left unfinished, or load anything. -/
lemma endsOpen_nil (h : inv.Converses) : (inv.fed []).EndsOpen :=
  (endsOpen_iff h (by simp)).mpr ⟨rfl, rfl⟩

lemma not_loadsItself_nil (inv : Invocation) : ¬ inv.LoadsItself [] := by
  rintro ⟨_, hmem, -⟩
  cases hmem

/-! ## Two inputs, one after the other -/

section
variable (h : inv.Converses) (hhistory : ¬ inv.RemembersInput) {a b : Text}
  (ha : Text.backspace ∉ a) (hline : a = [] ∨ a.getLast? = some '\n') (hloads : ¬ inv.LoadsItself a)
include h hhistory ha hline hloads

/-- **After a session that leaves nothing unfinished** the other one goes on. -/
theorem exists_tells_append (hb : Text.backspace ∉ b) (hloads' : ¬ inv.LoadsItself b)
    (hopen : (inv.fed a).EndsOpen) :
    ∃ flow rest said err said' err', (inv.fed a).Tells .proceed [] said err ∧
      (inv.fed b).Tells flow rest said' err' ∧
      (inv.fed (a ++ b)).Tells flow rest (said ++ said') (err ++ err') := by
  obtain ⟨said, err, hhears⟩ := exists_hears_fed hhistory ha hloads
  obtain ⟨said', err', hhears'⟩ := exists_hears_fed hhistory hb hloads'
  obtain ⟨hproceed, hnothing⟩ := (endsOpen_iff h ha).mp hopen
  rw [hproceed, hnothing] at hhears
  have hflow := Piped.course_flow_cases [] (textLines b)
  have hboth := (hhears (a ++ b)).append (hhears' (a ++ b))
  rw [← textLines_append hline b] at hboth
  exact ⟨_, _, said, err, said', err', tells_of_hears (h.fed a) rfl (.inl rfl) (hhears a),
    tells_of_hears (h.fed b) rfl hflow (hhears' b),
    tells_of_hears (h.fed (a ++ b)) rfl hflow hboth⟩

/-- **After a session that is ended by a command** nothing follows. -/
theorem exists_tells_over (hexit : (inv.fed a).EndsByExit) (b : Text) :
    ∃ rest said err, (inv.fed a).Tells .quit rest said err ∧
      (inv.fed (a ++ b)).Tells .quit rest said err := by
  obtain ⟨said, err, hhears⟩ := exists_hears_fed hhistory ha hloads
  rw [(endsByExit_iff h ha).mp hexit] at hhears
  have hboth := (hhears (a ++ b)).append_over nofun (textLines b)
  rw [← textLines_append hline b] at hboth
  exact ⟨_, said, err, tells_of_hears (h.fed a) rfl (.inr (.inl rfl)) (hhears a),
    tells_of_hears (h.fed (a ++ b)) rfl (.inr (.inl rfl)) hboth⟩

end

end Invocation

end Program

open Program

/-! ## Two sessions -/

/-- **Sessions compose**, where output is never refused and the history file is not the input.  At
    fewer than `2 ^ 31` bytes they end with status 0.  Two inputs one after the other, the first of
    which ends with a line, make up one session, if neither loads the input as a file.  If the first
    leaves nothing unfinished, that session says what the one on the first says without its end, and
    then what the one on the second says without its opening.  It reports what both report, apart
    from what the first says at its end if the history cannot be saved.  If the first is ended by a
    command, it says and reports the same as the first. -/
theorem sessions_compose {inv : Invocation} (h : inv.Converses) (hhistory : ¬ inv.RemembersInput) :
    (∀ input, Text.backspace ∉ input → Text.byteLength input < 2 ^ 31 →
      (run (inv.fed input)).exit = 0) ∧
      ∀ a b, Text.backspace ∉ a → Text.backspace ∉ b → (a = [] ∨ a.getLast? = some '\n') →
        ¬ inv.LoadsItself a →
        ((inv.fed a).EndsOpen → ¬ inv.LoadsItself b →
          (∃ first second,
            (run (inv.fed a)).out.contents =
                first ++ Text.encode "\x1b[2m^D\x1b[0m\n".toList ∧
              (run (inv.fed b)).out.contents =
                inv.out.contents ++ inv.opening.encode ++ second ∧
              (run (inv.fed (a ++ b))).out.contents = first ++ second) ∧
            (∃ reported,
              (run (inv.fed a)).err = reported ++ inv.unsaved ∧
                (run (inv.fed (a ++ b))).err = reported ++ (run (inv.fed b)).err) ∧
            (inv.CanSave → (run (inv.fed (a ++ b))).err =
              (run (inv.fed a)).err ++ (run (inv.fed b)).err)) ∧
        ((inv.fed a).EndsByExit →
          (run (inv.fed (a ++ b))).out.contents = (run (inv.fed a)).out.contents ∧
            (run (inv.fed (a ++ b))).err = (run (inv.fed a)).err) := by
  have hunsaved := fun input => Invocation.unsaved_fed hhistory input
  refine ⟨fun input hinput hbytes => ?_, fun a b ha hb hline hloads =>
    ⟨fun hopen hloads' => ?_, fun hexit => ?_⟩⟩
  · obtain ⟨said, err, htells⟩ := Invocation.exists_tells h hinput
    have hcourse : (Piped.course [] (textLines input)).flow ≠ .crash := by
      apply Piped.course_flow_ne_crash
      rwa [List.nil_append, flatten_textLines]
    rw [htells.exit, if_neg hcourse]
  · obtain ⟨flow, rest, said, err, said', err', htells, htells', htold⟩ :=
      Invocation.exists_tells_append h hhistory ha hline hloads hb hloads' hopen
    have hopening : ∀ input, (inv.fed input).opening = inv.opening := fun input => rfl
    have hreported := htells.err
    have hreported' : (run (inv.fed (a ++ b))).err = err ++ (run (inv.fed b)).err := by
      rw [htold.err, htells'.err, hunsaved, hunsaved, List.append_assoc]
    rw [if_neg nofun, hunsaved] at hreported
    refine ⟨⟨inv.out.contents ++ (inv.opening ++ said).encode,
      (said' ++ Invocation.ending flow).encode, ?_, ?_, ?_⟩, ⟨err, hreported, hreported'⟩,
      fun hsave => ?_⟩
    · rw [htells.out, hopening, Text.encode_append, ← List.append_assoc]
      rfl
    · rw [htells'.out, hopening]
      simp only [Text.encode_append, List.append_assoc]
      rfl
    · rw [htold.out, hopening]
      simp only [Text.encode_append, List.append_assoc]
      rfl
    · rw [hreported', hreported, Invocation.unsaved_eq_nil hsave, List.append_nil]
  · obtain ⟨rest, said, err, htells, htold⟩ :=
      Invocation.exists_tells_over h hhistory ha hline hloads hexit b
    refine ⟨by rw [htold.out, htells.out]; rfl, ?_⟩
    rw [htold.err, htells.err, hunsaved, hunsaved]

/-- The program without arguments and without files. -/
def Program.Invocation.bare : Invocation :=
  .plain [] .empty

lemma Program.Invocation.converses_bare : Invocation.bare.Converses :=
  ⟨⟨false, rfl⟩, rfl, Sink.accepts_iff.mpr rfl⟩

/-- A file that is not there, an entry of two lines and an illegal character, and then a session
    that is ended by a command, in both orders. -/
theorem sessions_compose_orders :
    (Invocation.bare.fed ".load f\n(\n)\n@\n".toList).EndsOpen ∧
      (Invocation.bare.fed "x\n.exit\ny\n".toList).EndsByExit ∧
      Invocation.bare.CanSave ∧
      (run (Invocation.bare.fed ".load f\n(\n)\n@\nx\n.exit\ny\n".toList)).err =
        (run (Invocation.bare.fed ".load f\n(\n)\n@\n".toList)).err ++
          (run (Invocation.bare.fed "x\n.exit\ny\n".toList)).err ∧
      (run (Invocation.bare.fed "x\n.exit\ny\n.load f\n(\n)\n@\n".toList)).err =
        (run (Invocation.bare.fed "x\n.exit\ny\n".toList)).err ∧
      (run (Invocation.bare.fed "x\n.exit\ny\n.load f\n(\n)\n@\n".toList)).exit = 0 := by
  have hopen : (Invocation.bare.fed ".load f\n(\n)\n@\n".toList).EndsOpen :=
    (Invocation.endsOpen_iff Invocation.converses_bare (by decide)).mpr (by decide +kernel)
  have hquit : (Invocation.bare.fed "x\n.exit\ny\n".toList).EndsByExit :=
    (Invocation.endsByExit_iff Invocation.converses_bare (by decide)).mpr (by decide +kernel)
  have hsave : Invocation.bare.CanSave := .inl (by decide +kernel)
  have hloads : ¬ Invocation.bare.LoadsItself ".load f\n(\n)\n@\n".toList := by decide +kernel
  have hloads' : ¬ Invocation.bare.LoadsItself "x\n.exit\ny\n".toList := by decide +kernel
  obtain ⟨hexit, hcompose⟩ := sessions_compose Invocation.converses_bare (by decide +kernel)
  refine ⟨hopen, hquit, hsave, ?_, ?_, hexit _ (by decide) (by decide)⟩
  · exact ((hcompose _ _ (by decide) (by decide) (.inr (by decide)) hloads).1 hopen hloads').2.2
      hsave
  · exact ((hcompose _ _ (by decide) (by decide) (.inr (by decide)) hloads').2 hquit).2

/-- A history file with a malformed line that is too long to be written again. -/
def Program.Invocation.overfull : Invocation :=
  .plain []
    { entries := [(["monkey".toList, ".monkey_history".toList], .file [97, 10, 255, 10])]
      input := []
      writing := .upTo 5 .fileTooLarge }

/-- A terminal on which entries are asked for even if they are piped. -/
def Program.Invocation.dumb : Invocation :=
  { Invocation.bare with
    environment := { Invocation.bare.environment with terminal := some "dumb".toList } }

/-- A line of opening brackets. -/
def Program.openingLine (n : Nat) : Text :=
  List.replicate n '(' ++ ['\n']

lemma Program.backspace_notMem_openingLine (n : Nat) : Text.backspace ∉ openingLine n := by
  intro hc
  rcases List.mem_append.mp hc with hc | hc
  · cases (List.mem_replicate.mp hc).2
  · cases List.mem_singleton.mp hc

/-- Brackets that are opened until they cannot be counted break the program off. -/
lemma Program.Invocation.exit_openingLine {n : Nat} (h : 2 ^ 31 ≤ n) :
    (run (Invocation.bare.fed (openingLine n))).exit = crashStatus := by
  have hline : '\n' ∉ List.replicate n '(' := fun hc => by cases (List.mem_replicate.mp hc).2
  obtain ⟨said, err, htells⟩ :=
    exists_tells converses_bare (backspace_notMem_openingLine n)
  rw [openingLine, textLines_line hline, Piped.course_flow_of_opening h] at htells
  exact htells.exit

/-- Neither the warning at the end of a session nor the question at its beginning can be left out
    of account, not even for two sessions without input, and a session on too many brackets does not
    end with status 0. -/
theorem not_forall_sessions_compose :
    (¬ ∀ (inv : Invocation) (a b : Text), inv.Converses → ¬ inv.RemembersInput →
      Text.backspace ∉ a → Text.backspace ∉ b → (a = [] ∨ a.getLast? = some '\n') →
      ¬ inv.LoadsItself a → ¬ inv.LoadsItself b → (inv.fed a).EndsOpen →
      (run (inv.fed (a ++ b))).err = (run (inv.fed a)).err ++ (run (inv.fed b)).err) ∧
    (¬ ∀ (inv : Invocation) (a b : Text), inv.Converses → ¬ inv.RemembersInput →
      Text.backspace ∉ a → Text.backspace ∉ b → (a = [] ∨ a.getLast? = some '\n') →
      ¬ inv.LoadsItself a → ¬ inv.LoadsItself b → (inv.fed a).EndsOpen →
      ∃ first second,
        (run (inv.fed a)).out.contents = first ++ Text.encode "\x1b[2m^D\x1b[0m\n".toList ∧
          (run (inv.fed b)).out.contents = inv.out.contents ++
            (lineText (Page.banner inv.environment.greeted)).encode ++ second ∧
          (run (inv.fed (a ++ b))).out.contents = first ++ second) ∧
    ¬ ∀ (inv : Invocation) (input : Text), inv.Converses → ¬ inv.RemembersInput →
      Text.backspace ∉ input → (run (inv.fed input)).exit = 0 := by
  refine ⟨?_, ?_, ?_⟩
  · intro h
    have hconverses : Invocation.overfull.Converses := ⟨⟨false, rfl⟩, rfl, Sink.accepts_iff.mpr rfl⟩
    have hloads := Invocation.overfull.not_loadsItself_nil
    have herr := h .overfull [] [] hconverses (by decide +kernel) (by decide) (by decide) (.inl rfl)
      hloads hloads (Invocation.endsOpen_nil hconverses)
    have hsaid : (run (Invocation.overfull.fed [])).err.length = 1 := by decide +kernel
    have hlength := congrArg List.length herr
    rw [List.append_nil, List.length_append, hsaid] at hlength
    omega
  · intro h
    have hconverses : Invocation.dumb.Converses := ⟨⟨false, rfl⟩, rfl, Sink.accepts_iff.mpr rfl⟩
    have hloads := Invocation.dumb.not_loadsItself_nil
    obtain ⟨first, second, hfirst, hsecond, hboth⟩ := h .dumb [] [] hconverses (by decide +kernel)
      (by decide) (by decide) (.inl rfl) hloads hloads (Invocation.endsOpen_nil hconverses)
    -- the two parts together would be as long as a session with two questions
    have hlength := congrArg List.length hfirst
    have hlength' := congrArg List.length hsecond
    have hlength'' := congrArg List.length hboth
    have hquestion : (run (Invocation.dumb.fed [])).out.contents.length =
        (lineText (Page.banner Invocation.dumb.environment.greeted)).encode.length +
          (Text.encode "\x1b[2m^D\x1b[0m\n".toList).length + 3 := by decide +kernel
    have hempty : Invocation.dumb.out.contents.length = 0 := rfl
    rw [List.append_nil] at hlength''
    simp only [List.length_append] at hlength hlength' hlength''
    omega
  · intro h
    have hexit := h .bare (openingLine (2 ^ 31)) Invocation.converses_bare (by decide +kernel)
      (backspace_notMem_openingLine _)
    rw [Invocation.exit_openingLine (Nat.le_refl _)] at hexit
    cases hexit

end MonkeyTokens
