import MonkeyTokens.Program.Console
import MonkeyTokens.Proofs.System.Output

/-!
# What the program writes

With output that refuses nothing, each way of writing on the console adds a fixed text and fixed
lines, whatever was written before, and the program goes on.

* `Console.Emits` — from one console to another a text was added to the output and lines to the
  error channel;
* `Console.shown` — the lines of events that pass a filter;
* `Dump.write_of_accepts`, `Dump.contents_write` — a dump is written whole, to any destination that
  refuses nothing;
* one lemma for each way of writing on the console: `emits_complain`, `emits_logAll`,
  `exists_say`, `exists_dump`.
-/

namespace MonkeyTokens

/-! ## Dumps -/

/-- A dump that nothing refuses is written whole, and its summary is that of all tokens. -/
theorem Dump.write_of_accepts {ω : Type} [Writer ω] {out : ω} (h : Writer.Accepts out)
    (color : Bool) (source : Text) :
    (Dump.write color source out).1 = .ok (.ofTokens (scan source)) := by
  have hall := h (Dump.pieces color (scan source))
  rw [Dump.write]
  generalize Writer.writeAll (Dump.pieces color (scan source)) out = r at hall ⊢
  obtain ⟨refused, out⟩ := r
  obtain rfl : refused = none := hall
  rfl

/-- What is added to a sink by a dump that it does not refuse is the text of the dump. -/
theorem Dump.contents_write {out : Sink} (h : Writer.Accepts out) (color : Bool)
    (source : Text) :
    (Dump.write color source out).2.contents =
      out.contents ++ (Dump.text color source).encode := by
  rw [Dump.write, Sink.writeAll_of_room (Sink.accepts_iff.mp h)]
  simp [Sink.contents, Dump.text]

namespace Console

/-- The output of the console refuses nothing. -/
def Open (con : Console) : Prop :=
  con.out.sink.room = none

/-- A text was added to the output and lines to the error channel, and nothing else. -/
structure Emits (before after : Console) (out : Text) (err : List Text) : Prop where
  isOpen : after.Open
  out : after.out.contents = before.out.contents ++ out.encode
  err : after.err = before.err ++ err

variable {con mid last : Console} {out out' : Text} {err err' : List Text}

lemma Emits.refl (h : con.Open) : Emits con con [] [] :=
  ⟨h, by simp, by simp⟩

lemma Emits.trans (h : Emits con mid out err) (h' : Emits mid last out' err') :
    Emits con last (out ++ out') (err ++ err') :=
  ⟨h'.isOpen, by rw [h'.out, h.out, Text.encode_append, List.append_assoc],
    by rw [h'.err, h.err, List.append_assoc]⟩

/-! ## The error channel -/

lemma emits_complain (h : con.Open) (line : Text) : Emits con (con.complain line) [] [line] :=
  ⟨h, by simp [complain], rfl⟩

/-- The lines of the events that pass a filter. -/
def shown (filter : Log.Filter) (events : List Log.Event) : List Text :=
  (events.filter filter.shows).map Log.Event.line

lemma emits_log (h : con.Open) (ctx : Context) (event : Log.Event) :
    Emits con (con.log ctx event) [] (shown ctx.filter [event]) := by
  unfold log shown
  split
  · next hshow => simpa [hshow] using emits_complain h event.line
  · next hshow => simpa [hshow] using Emits.refl h

lemma emits_logAll (h : con.Open) (ctx : Context) (events : List Log.Event) :
    Emits con (con.logAll ctx events) [] (shown ctx.filter events) := by
  induction events generalizing con with
  | nil => exact .refl h
  | cons event events ih =>
      have hfirst := emits_log h ctx event
      have hboth := hfirst.trans (ih hfirst.isOpen)
      have hsplit : shown ctx.filter (event :: events) =
          shown ctx.filter [event] ++ shown ctx.filter events := by
        rw [shown, ← List.singleton_append, List.filter_append, List.map_append]
        rfl
      rwa [hsplit]

/-! ## The output -/

lemma exists_put (h : con.Open) (pieces : List Text) :
    ∃ after, con.put pieces = (.proceed, after) ∧ Emits con after pieces.flatten [] := by
  obtain ⟨out, err⟩ := con
  obtain ⟨after, hwrite, hroom, hcontents⟩ := (LineWriter.added_writeAll h pieces).exists_eq
  rw [put, hwrite]
  exact ⟨⟨after, err⟩, rfl, hroom, hcontents, (List.append_nil _).symm⟩

/-- The text of some lines. -/
def lineText (lines : List Text) : Text :=
  lines.flatMap (· ++ ['\n'])

/-- Lines are written in two pieces each. -/
lemma flatten_pieces (lines : List Text) :
    (lines.flatMap fun line => [line, ['\n']]).flatten = lineText lines := by
  induction lines with
  | nil => rfl
  | cons line lines ih => simpa [lineText] using ih

lemma exists_say (h : con.Open) (lines : List Text) :
    ∃ after, con.say lines = (.proceed, after) ∧ Emits con after (lineText lines) [] := by
  rw [← flatten_pieces]
  exact exists_put h _

/-- What is logged about a dump. -/
def dumpEvents (target source : Text) : List Log.Event :=
  Log.scanned source (.ofTokens (scan source)) ::
    ((scan source).filter Token.isIllegal).map (Log.illegalCharacter target)

/-- **A dump** is written whole, and what was seen is logged. -/
theorem exists_dump (h : con.Open) (ctx : Context) (target source : Text) :
    ∃ after, con.dump ctx target source = (.ok (.ofTokens (scan source)), after) ∧
      Emits con after (Dump.text ctx.color source)
        (shown ctx.filter (dumpEvents target source)) := by
  obtain ⟨out, err⟩ := con
  obtain ⟨after, hwrite, hroom, hcontents⟩ :=
    (LineWriter.added_writeAll h (Dump.pieces ctx.color (scan source))).exists_eq
  rw [dump, Dump.write, hwrite]
  have hwritten : Emits ⟨out, err⟩ ⟨after, err⟩ (Dump.text ctx.color source) [] :=
    ⟨hroom, hcontents, (List.append_nil _).symm⟩
  have hboth := hwritten.trans
    (emits_logAll hwritten.isOpen ctx (dumpEvents target source))
  rw [List.append_nil, List.nil_append] at hboth
  exact ⟨_, rfl, hboth⟩

end Console

end MonkeyTokens
