import MonkeyTokens.System.Error

/-!
# Writing output

Text is written piece by piece, and a destination may refuse a piece.

* `Writer` — what it takes to be written to; `Writer.writeAll` writes pieces in order and stops at
  the first that is refused;
* `Sink` — a destination that takes a bounded number of bytes, then fills up and refuses;
* `LineWriter` — a buffer in front of a sink that passes on whole lines.
-/

namespace MonkeyTokens

/-- What a write came to: the cause if it was refused, and the destination afterwards. -/
abbrev Written (ω : Type) := Option SystemError × ω

/-- Goes on with the destination unless the write was refused. -/
def Written.andThen {ω : Type} (w : Written ω) (next : ω → Written ω) : Written ω :=
  match w with
  | (none, out) => next out
  | (some cause, out) => (some cause, out)

/-- Destinations of text. -/
class Writer (ω : Type) where
  /-- Writes one piece. -/
  write : Text → ω → Written ω

/-- Writes pieces in order, up to and including the first that is refused. -/
def Writer.writeAll {ω : Type} [Writer ω] : List Text → ω → Written ω
  | [], out => (none, out)
  | piece :: pieces, out => (Writer.write piece out).andThen (writeAll pieces)

/-! ## Sinks -/

/-- A destination of bytes. -/
structure Sink where
  /-- The bytes taken so far. -/
  accepted : Array UInt8
  /-- How many more bytes it takes; none if there is no bound. -/
  room : Option Nat
  /-- What it says when there is no room. -/
  refusal : SystemError
  deriving Repr

namespace Sink

/-- A sink that takes everything. -/
def unbounded : Sink :=
  ⟨#[], none, .os .noSpace⟩

/-- A sink that takes `limit` bytes in all. -/
def bounded (limit : Nat) (refusal : SystemError) : Sink :=
  ⟨#[], some limit, refusal⟩

/-- The bytes a sink holds. -/
def contents (s : Sink) : List UInt8 :=
  s.accepted.toList

/-- How many of `n` bytes a sink would take. -/
def takes (s : Sink) (n : Nat) : Nat :=
  match s.room with
  | none => n
  | some room => min room n

/-- Takes bytes.  If they do not fit, the sink is filled up and the write refused. -/
def writeBytes (bytes : List UInt8) : Sink → Written Sink
  | ⟨accepted, none, refusal⟩ => (none, ⟨accepted ++ bytes, none, refusal⟩)
  | ⟨accepted, some room, refusal⟩ =>
    if bytes.length ≤ room then
      (none, ⟨accepted ++ bytes, some (room - bytes.length), refusal⟩)
    else (some refusal, ⟨accepted ++ bytes.take room, some 0, refusal⟩)

instance : Writer Sink where
  write piece := writeBytes piece.encode

end Sink

/-! ## Line by line -/

/-- A buffer in front of a sink.  It holds back an unfinished line, and passes lines on as soon as
    they are finished. -/
structure LineWriter where
  sink : Sink
  /-- Bytes that are written but not passed on. -/
  pending : List UInt8
  deriving Repr

namespace LineWriter

/-- How many bytes are held back at most. -/
def capacity : Nat := 1024

/-- A writer in front of a sink, with nothing held back. -/
def ofSink (sink : Sink) : LineWriter :=
  ⟨sink, []⟩

/-- Bytes straight to the sink. -/
def pass (bytes : List UInt8) : LineWriter → Written LineWriter
  | ⟨sink, pending⟩ =>
    let (refused, sink) := sink.writeBytes bytes
    (refused, ⟨sink, pending⟩)

/-- Passes on what is held back.  What the sink refuses stays. -/
def flush : LineWriter → Written LineWriter
  | ⟨sink, pending⟩ =>
    let taken := sink.takes pending.length
    let (refused, sink) := sink.writeBytes pending
    (refused, ⟨sink, pending.drop taken⟩)

/-- Holds bytes back if there is room for them; else passes on what is held back, and the bytes
    too if they alone fill the buffer. -/
def hold (bytes : List UInt8) (w : LineWriter) : Written LineWriter :=
  if bytes.length < capacity - w.pending.length then
    (none, { w with pending := w.pending ++ bytes })
  else
    Written.andThen
      (if capacity - w.pending.length < bytes.length then w.flush else (none, w))
      fun w =>
        if capacity ≤ bytes.length then w.pass bytes
        else (none, { w with pending := w.pending ++ bytes })

/-- Passes on what is held back if it ends a line, which is so only after a refusal. -/
def flushFinished (w : LineWriter) : Written LineWriter :=
  if w.pending.getLast? = some 10 then w.flush else (none, w)

/-- Bytes up to and including the last line feed, and the bytes after it. -/
def splitFinished (bytes : List UInt8) : List UInt8 × List UInt8 :=
  let unfinished := (bytes.reverse.takeWhile (· != 10)).reverse
  (bytes.take (bytes.length - unfinished.length), unfinished)

/-- Writes bytes: finished lines are passed on at once, the rest is held back. -/
def writeBytes (bytes : List UInt8) (w : LineWriter) : Written LineWriter :=
  match splitFinished bytes with
  | ([], unfinished) => w.flushFinished.andThen (hold unfinished)
  | (finished, unfinished) =>
    Written.andThen
      (if w.pending = [] then w.pass finished else (w.hold finished).andThen flush)
      (hold unfinished)

instance : Writer LineWriter where
  write piece := writeBytes piece.encode

/-- All bytes written and not refused, whether passed on or not. -/
def contents (w : LineWriter) : List UInt8 :=
  w.sink.contents ++ w.pending

/-- What the sink holds in the end, when what is held back is passed on as far as it fits. -/
def close (w : LineWriter) : Sink :=
  w.flush.2.sink

end LineWriter

end MonkeyTokens
