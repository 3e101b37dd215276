import MonkeyTokens.Session.Piped
import MonkeyTokens.Proofs.Program.Console
import MonkeyTokens.Proofs.Prompt.Balance
import MonkeyTokens.Proofs.Text.Bytes
import MonkeyTokens.Proofs.Text.Trim

/-!
# Lines, entries and what is said to them

A session on piped lines puts them together to entries and answers one entry after the other.
Nothing but the unfinished entry passes from one line to the next.

* `Piped.course` — the entries that lines make up, how they leave the session, and what is left
  unfinished, said without a console;
* `Entry.exists_evaluate` — what an entry adds to the console depends on the entry alone, and on the
  file that it loads;
* `Piped.Hears` — what lines add to the console, whatever was written before them;
* **`Piped.exists_hears`** — lines of text are heard, and their course tells how the session goes
  on: it ends at the first entry that says so, or breaks off at brackets that cannot be counted.
-/

namespace MonkeyTokens

open Console

/-! ## One entry -/

namespace Entry

/-- The entry ends the session. -/
def isExit (entry : Text) : Bool :=
  (Command.parse? entry.trim).any fun call => call.command = .exit

/-- How a session goes on after an entry. -/
def flow (entry : Text) : Flow :=
  if isExit entry then .quit else .proceed

/-- A dump at the prompt adds the dump of its source, and what is logged about it. -/
lemma emits_dump {con : Console} (h : con.Open) (ctx : Context) (source : Text) :
    Emits con (dump ctx source con) (Dump.text ctx.color source)
      (shown ctx.filter (dumpEvents Log.Target.prompt source)) := by
  obtain ⟨after, hdump, hemits⟩ := Console.exists_dump h ctx Log.Target.prompt source
  rw [dump, hdump]
  exact hemits

lemma exists_load (ctx : Context) (path : Text) :
    ∃ out err, ∀ con : Console, con.Open → Emits con (load ctx path con) out err := by
  unfold load
  cases ctx.readFile path with
  | ok source => exact ⟨_, _, fun con hcon => emits_dump hcon ctx source⟩
  | error cause => exact ⟨_, _, fun con hcon => emits_complain hcon _⟩

/-- The file that an entry loads. -/
def loaded? (entry : Text) : Option Text :=
  match Command.parse? entry.trim with
  | some ⟨.load, some path⟩ => some path
  | _ => none

/-- All an entry is told about the files is what it loads. -/
lemma evaluate_congr {ctx : Context} {readFile : Text → Except SystemError Text} {entry : Text}
    (h : ∀ path, loaded? entry = some path → readFile path = ctx.readFile path) (con : Console) :
    evaluate { ctx with readFile } entry con = evaluate ctx entry con := by
  simp only [evaluate]
  split
  · rfl
  cases hcall : Command.parse? entry.trim with
  | none => rfl
  | some call =>
      obtain ⟨command, argument⟩ := call
      cases command with
      | help | exit | clear | version => rfl
      | load =>
          cases argument with
          | none => rfl
          | some path =>
              have hfile : readFile path = ctx.readFile path := h path (by rw [loaded?, hcall])
              simp only [execute, load, hfile]
              rfl

/-- **What an entry adds** to the console depends on the entry alone. -/
theorem exists_evaluate (ctx : Context) (entry : Text) :
    ∃ out err, ∀ con : Console, con.Open →
      ∃ after, evaluate ctx entry con = (flow entry, after) ∧ Emits con after out err := by
  unfold evaluate flow isExit
  by_cases hblank : entry.trim = []
  · have hnone : Command.parse? [] = none := rfl
    simp only [hblank, hnone, if_true]
    exact ⟨[], [], fun con hcon => ⟨con, rfl, .refl hcon⟩⟩
  simp only [hblank, if_false]
  cases Command.parse? entry.trim with
  | none =>
      exact ⟨_, _, fun con hcon => ⟨_, rfl, emits_dump hcon ctx entry.trim⟩⟩
  | some call =>
      obtain ⟨command, argument⟩ := call
      cases command with
      | help => exact ⟨_, _, fun con hcon => exists_say hcon Page.help⟩
      | exit => exact ⟨[], [], fun con hcon => ⟨con, rfl, .refl hcon⟩⟩
      | clear => exact ⟨_, _, fun con hcon => exists_put hcon [Page.clear]⟩
      | version => exact ⟨_, _, fun con hcon => exists_say hcon Page.version⟩
      | load =>
          cases argument with
          | none =>
              exact ⟨_, _, fun con hcon => ⟨_, rfl, emits_complain hcon pathMissing⟩⟩
          | some path =>
              obtain ⟨out, err, hload⟩ := exists_load ctx path
              exact ⟨out, err, fun con hcon => ⟨_, rfl, hload con hcon⟩⟩

end Entry

namespace Piped

/-! ## From lines to entries -/

/-- What comes of lines. -/
structure Course where
  /-- The entries that are evaluated. -/
  entries : List Text
  /-- How the session goes on. -/
  flow : Flow
  /-- What is unfinished then. -/
  rest : Text

/-- The files that are loaded. -/
def Course.loads (c : Course) : List Text :=
  c.entries.filterMap Entry.loaded?

/-- What comes of lines after what is unfinished. -/
def course (unfinished : Text) : List Text → Course
  | [] => ⟨[], .proceed, unfinished⟩
  | line :: lines =>
    let entry := (Line.ofText (unfinished ++ line)).body
    match Balance.acceptsWord? entry with
    | none => ⟨[], .crash, unfinished⟩
    | some false => course (unfinished ++ line) lines
    | some true =>
      if Entry.isExit entry then ⟨[entry], .quit, []⟩
      else
        let more := course [] lines
        ⟨entry :: more.entries, more.flow, more.rest⟩

/-- Lines leave the session going, or they end it, or it breaks off. -/
lemma course_flow_cases (unfinished : Text) (lines : List Text) :
    (course unfinished lines).flow = .proceed ∨ (course unfinished lines).flow = .quit ∨
      (course unfinished lines).flow = .crash := by
  induction lines generalizing unfinished with
  | nil => exact .inl rfl
  | cons line lines ih =>
      rw [course]
      split
      · exact .inr (.inr rfl)
      · exact ih _
      · simp only
        split
        · exact .inr (.inl rfl)
        · exact ih []

/-- **The session does not break off** at fewer than `2 ^ 31` bytes. -/
theorem course_flow_ne_crash {unfinished : Text} {lines : List Text}
    (h : Text.byteLength (unfinished ++ lines.flatten) < 2 ^ 31) :
    (course unfinished lines).flow ≠ .crash := by
  induction lines generalizing unfinished with
  | nil => exact nofun
  | cons line lines ih =>
      rw [List.flatten_cons, ← List.append_assoc] at h
      have hbody : Text.byteLength (Line.ofText (unfinished ++ line)).body < 2 ^ 31 := by
        rw [← Line.body_append_ending (unfinished ++ line)] at h
        simp only [Text.byteLength_append] at h
        omega
      have hlines : Text.byteLength ([] ++ lines.flatten) < 2 ^ 31 := by
        rw [Text.byteLength_append] at h
        rw [List.nil_append]
        omega
      rw [course, Balance.acceptsWord?_eq hbody]
      split
      · next hnone => cases hnone
      · exact ih h
      · simp only
        split
        · exact nofun
        · exact ih hlines

/-- **It breaks off** at a line of `2 ^ 31` opening brackets. -/
theorem course_flow_of_opening {n : Nat} (h : 2 ^ 31 ≤ n) :
    (course [] [List.replicate n '(' ++ ['\n']]).flow = .crash := by
  have hmem : ∀ c ∈ List.replicate n '(', c = '(' := fun c hc => (List.mem_replicate.mp hc).2
  have hbody : (Line.ofText (List.replicate n '(' ++ ['\n'])).body = List.replicate n '(' :=
    Line.body_ofText_line fun hlast => by cases hmem _ (List.mem_of_getLast? hlast)
  have htrimmed : Text.Trimmed (List.replicate n '(') :=
    ⟨fun c hc => by rw [hmem c (List.mem_of_head? hc)]; rfl,
      fun c hc => by rw [hmem c (List.mem_of_getLast? hc)]; rfl⟩
  have hparse : Command.parse? (List.replicate n '(') = none := by
    obtain ⟨m, rfl⟩ := Nat.exists_eq_add_of_le' (Nat.one_le_two_pow.trans h)
    rw [Command.parse?, htrimmed.trim_eq, List.replicate_succ]
    rfl
  have hfits := Balance.not_fits_replicate (Int.le_refl 0) (by decide) (n := n) (by omega)
  have hcount : Balance.acceptsWord? (List.replicate n '(') = none := by
    rw [Balance.acceptsWord?, hparse, Balance.needsMoreWord?_eq_none hfits]
    rfl
  rw [course, List.nil_append, hbody, hcount]

/-! ## What lines add to the console -/

/-- What stands on the console when entries are asked for. -/
def question (asking : Bool) : Text :=
  if asking then Page.prompt else []

lemma exists_ask {con : Console} (h : con.Open) (ctx : Context) (asking : Bool) :
    ∃ after, ask ctx asking con = (.proceed, after) ∧
      Emits con after (question asking) (shown ctx.filter [readingLines asking]) := by
  have hlog := emits_log h ctx (readingLines asking)
  unfold ask question
  generalize con.log ctx (readingLines asking) = mid at hlog
  obtain ⟨out, err⟩ := mid
  cases asking with
  | false => exact ⟨_, rfl, hlog⟩
  | true =>
      have hadded : LineWriter.Added out (Page.prompt.encode ++ [])
          ((Writer.write Page.prompt out).andThen LineWriter.flush) :=
        (LineWriter.added_writeBytes hlog.isOpen _).andThen fun hroom =>
          LineWriter.added_flush hroom
      obtain ⟨after, hwrite, hroom, hcontents⟩ := hadded.exists_eq
      simp only [if_true, hwrite]
      refine ⟨⟨after, err⟩, rfl, hroom, ?_, hlog.err⟩
      rw [hcontents, hlog.out]
      simp

/-- With `unfinished` in front, these lines add a fixed text and fixed lines to any console that
    refuses nothing.  Then the session goes on, or is over, with `rest` unfinished. -/
def Hears (ctx : Context) (asking : Bool) (unfinished : Text) (lines : List Text) (flow : Flow)
    (rest : Text) (out : Text) (err : List Text) : Prop :=
  ∀ con : Console, con.Open →
    ∃ after, feedAll ctx asking (lines.map Text.encode) ⟨unfinished, con⟩ =
        (flow, ⟨rest, after⟩) ∧ Emits con after out err

variable {ctx : Context} {asking : Bool}

lemma hears_nil (unfinished : Text) : Hears ctx asking unfinished [] .proceed unfinished [] [] :=
  fun con hcon => ⟨con, rfl, .refl hcon⟩

lemma feedAll_append (xs ys : List (List UInt8)) (s : State) :
    feedAll ctx asking (xs ++ ys) s =
      goOn (feedAll ctx asking xs s) (feedAll ctx asking ys) := by
  induction xs generalizing s with
  | nil => rfl
  | cons line lines ih =>
      rw [List.cons_append, feedAll, feedAll]
      cases feed ctx asking line s with
      | mk flow s =>
          cases flow with
          | proceed => exact ih s
          | quit | fail _ | crash => rfl

/-- Lines after lines that leave the session going. -/
theorem Hears.append {u v w : Text} {xs ys : List Text} {flow : Flow} {out out' : Text}
    {err err' : List Text} (h : Hears ctx asking u xs .proceed v out err)
    (h' : Hears ctx asking v ys flow w out' err') :
    Hears ctx asking u (xs ++ ys) flow w (out ++ out') (err ++ err') := by
  intro con hcon
  obtain ⟨mid, hxs, hmid⟩ := h con hcon
  obtain ⟨after, hys, hafter⟩ := h' mid hmid.isOpen
  refine ⟨after, ?_, hmid.trans hafter⟩
  rw [List.map_append, feedAll_append, hxs]
  exact hys

/-- Lines after the end of the session are not read. -/
theorem Hears.append_over {u v : Text} {xs : List Text} {flow : Flow} {out : Text}
    {err : List Text} (h : Hears ctx asking u xs flow v out err) (hover : flow ≠ .proceed)
    (ys : List Text) : Hears ctx asking u (xs ++ ys) flow v out err := by
  intro con hcon
  obtain ⟨after, hxs, hafter⟩ := h con hcon
  refine ⟨after, ?_, hafter⟩
  rw [List.map_append, feedAll_append, hxs]
  cases flow with
  | proceed => exact absurd rfl hover
  | quit | fail _ | crash => rfl

/-! ### One line -/

/-- Without backspaces a line is put to what is unfinished as it is. -/
lemma assemble_eq {unfinished line : Text} (h : Text.backspace ∉ unfinished ++ line) :
    assemble unfinished line = .ok (Line.ofText (unfinished ++ line)) := by
  have hbody : Text.backspace ∉ (Line.ofText (unfinished ++ line)).body := by
    intro hmem
    rw [← Line.body_append_ending (unfinished ++ line)] at h
    exact h (List.mem_append_left _ hmem)
  rw [assemble, Text.applyBackspaces, if_neg hbody]
  rfl

/-- A line finishes an entry, or it leaves it unfinished, or its brackets cannot be counted. -/
lemma feedAll_singleton {unfinished line : Text} (h : Text.backspace ∉ unfinished ++ line)
    (con : Console) :
    feedAll ctx asking ([line].map Text.encode) ⟨unfinished, con⟩ =
      match Balance.acceptsWord? (Line.ofText (unfinished ++ line)).body with
      | none => (.crash, ⟨unfinished, con⟩)
      | some true =>
        let finished := finish ctx asking (Line.ofText (unfinished ++ line)).body con
        (finished.1, ⟨[], finished.2⟩)
      | some false => (.proceed, ⟨unfinished ++ line, con⟩) := by
  rw [List.map_singleton, feedAll, feed, Text.decode?_encode]
  simp only [assemble_eq h]
  rw [Line.body_append_ending]
  cases Balance.acceptsWord? (Line.ofText (unfinished ++ line)).body with
  | none => rfl
  | some done =>
      cases done with
      | false => rfl
      | true =>
          generalize finish ctx asking (Line.ofText (unfinished ++ line)).body con = r
          obtain ⟨flow, con'⟩ := r
          cases flow <;> rfl

/-- Brackets that cannot be counted. -/
lemma hears_uncounted {unfinished line : Text} (h : Text.backspace ∉ unfinished ++ line)
    (hcount : Balance.acceptsWord? (Line.ofText (unfinished ++ line)).body = none) :
    Hears ctx asking unfinished [line] .crash unfinished [] [] :=
  fun con hcon => ⟨con, by rw [feedAll_singleton h, hcount], .refl hcon⟩

lemma hears_unfinished {unfinished line : Text} (h : Text.backspace ∉ unfinished ++ line)
    (hmore : Balance.acceptsWord? (Line.ofText (unfinished ++ line)).body = some false) :
    Hears ctx asking unfinished [line] .proceed (unfinished ++ line) [] [] :=
  fun con hcon => ⟨con, by rw [feedAll_singleton h, hmore], .refl hcon⟩

/-- An entry is answered in the same way wherever the file that it loads is the same. -/
lemma exists_hears_entry (ctx : Context) (asking : Bool) {unfinished line : Text}
    (h : Text.backspace ∉ unfinished ++ line)
    (hdone : Balance.acceptsWord? (Line.ofText (unfinished ++ line)).body = some true) :
    ∃ out err, ∀ readFile : Text → Except SystemError Text,
      (∀ path, Entry.loaded? (Line.ofText (unfinished ++ line)).body = some path →
        readFile path = ctx.readFile path) →
      Hears { ctx with readFile } asking unfinished [line]
        (Entry.flow (Line.ofText (unfinished ++ line)).body) [] out err := by
  obtain ⟨said, lines, hevaluate⟩ :=
    Entry.exists_evaluate ctx (Line.ofText (unfinished ++ line)).body
  by_cases hexit : Entry.isExit (Line.ofText (unfinished ++ line)).body = true
  · refine ⟨said, lines, fun readFile hfile con hcon => ?_⟩
    obtain ⟨after, hafter, hemits⟩ := hevaluate con hcon
    rw [Entry.flow, if_pos hexit] at hafter ⊢
    refine ⟨after, ?_, hemits⟩
    rw [feedAll_singleton h, hdone, finish, Entry.evaluate_congr hfile, hafter]
    rfl
  · refine ⟨said ++ question asking, lines ++ shown ctx.filter [readingLines asking],
      fun readFile hfile con hcon => ?_⟩
    obtain ⟨mid, hmid, hemits⟩ := hevaluate con hcon
    obtain ⟨after, hask, hasked⟩ := exists_ask hemits.isOpen { ctx with readFile } asking
    rw [Entry.flow, if_neg hexit] at hmid ⊢
    refine ⟨after, ?_, hemits.trans hasked⟩
    rw [feedAll_singleton h, hdone, finish, Entry.evaluate_congr hfile, hmid]
    simp only [goOn, hask]

/-! ### All lines -/

lemma loads_first {entry path : Text} {entries : List Text} {flow : Flow} {rest : Text}
    (h : Entry.loaded? entry = some path) :
    path ∈ (Course.mk (entry :: entries) flow rest).loads :=
  List.mem_filterMap.mpr ⟨entry, List.mem_cons_self, h⟩

lemma loads_more {entry path : Text} {c : Course} (h : path ∈ c.loads) :
    path ∈ (Course.mk (entry :: c.entries) c.flow c.rest).loads := by
  obtain ⟨other, hmem, hother⟩ := List.mem_filterMap.mp h
  exact List.mem_filterMap.mpr ⟨other, List.mem_cons_of_mem entry hmem, hother⟩

/-- **Lines of text are heard**, by induction on them.  What is unfinished is carried along, and
    with it that no backspace is in it.  What they add is the same wherever the files that are
    loaded are the same. -/
theorem exists_hears (ctx : Context) (asking : Bool) (lines : List Text) (unfinished : Text)
    (hu : Text.backspace ∉ unfinished) (hlines : ∀ line ∈ lines, Text.backspace ∉ line) :
    ∃ out err, ∀ readFile : Text → Except SystemError Text,
      (∀ path ∈ (course unfinished lines).loads, readFile path = ctx.readFile path) →
      Hears { ctx with readFile } asking unfinished lines (course unfinished lines).flow
        (course unfinished lines).rest out err := by
  induction lines generalizing unfinished with
  | nil => exact ⟨[], [], fun readFile _ => hears_nil unfinished⟩
  | cons line lines ih =>
      obtain ⟨hline, hlines⟩ := List.forall_mem_cons.mp hlines
      have hwhole : Text.backspace ∉ unfinished ++ line := by simp [hu, hline]
      rw [course]
      cases hdone : Balance.acceptsWord? (Line.ofText (unfinished ++ line)).body with
      | none =>
          exact ⟨[], [], fun readFile _ => (hears_uncounted hwhole hdone).append_over nofun lines⟩
      | some done =>
          cases done with
          | false =>
              obtain ⟨out, err, hrest⟩ := ih (unfinished ++ line) hwhole hlines
              exact ⟨_, _, fun readFile hfiles =>
                (hears_unfinished hwhole hdone).append (hrest readFile hfiles)⟩
          | true =>
              obtain ⟨out, err, hentry⟩ := exists_hears_entry ctx asking hwhole hdone
              simp only
              by_cases hexit : Entry.isExit (Line.ofText (unfinished ++ line)).body = true
              · simp only [if_pos hexit]
                rw [Entry.flow, if_pos hexit] at hentry
                refine ⟨out, err, fun readFile hfiles => ?_⟩
                have hfirst := fun path hpath => hfiles path (loads_first hpath)
                exact (hentry readFile hfirst).append_over nofun lines
              · simp only [if_neg hexit]
                rw [Entry.flow, if_neg hexit] at hentry
                obtain ⟨out', err', hrest⟩ := ih [] (by simp) hlines
                refine ⟨out ++ out', err ++ err', fun readFile hfiles => ?_⟩
                have hfirst := fun path hpath => hfiles path (loads_first hpath)
                have hmore := fun path hpath => hfiles path (loads_more hpath)
                exact (hentry readFile hfirst).append (hrest readFile hmore)

end Piped

end MonkeyTokens
