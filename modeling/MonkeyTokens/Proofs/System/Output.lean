import MonkeyTokens.System.Output
import Mathlib.Data.List.Basic

/-!
# Output that refuses nothing

What is written to a destination without a bound arrives, in order and completely, however it is
buffered on the way.

* `Writer.Accepts` — a destination that refuses nothing, whatever is written;
* `Sink.writeAll_eq` — a sink takes pieces as it takes their bytes at once;
* `Sink.accepts_iff` — among the sinks, those without a bound refuse nothing;
* `LineWriter.Added` — what a write to such a sink comes to, and one lemma for each way of writing;
* **`LineWriter.added_writeAll`** — pieces are added as they are, one after the other.
-/

namespace MonkeyTokens

/-- The destination refuses nothing, whatever is written. -/
def Writer.Accepts {ω : Type} [Writer ω] (out : ω) : Prop :=
  ∀ pieces, (Writer.writeAll pieces out).1 = none

/-- Pieces after others are written where those were not refused. -/
lemma Writer.writeAll_append {ω : Type} [Writer ω] (xs ys : List Text) (out : ω) :
    Writer.writeAll (xs ++ ys) out = (Writer.writeAll xs out).andThen (Writer.writeAll ys) := by
  induction xs generalizing out with
  | nil => rfl
  | cons x xs ih =>
      rw [List.cons_append, Writer.writeAll, Writer.writeAll]
      obtain ⟨refused, out⟩ := Writer.write x out
      cases refused with
      | none => exact ih out
      | some cause => rfl

/-! ## Sinks -/

namespace Sink

lemma writeBytes_of_room {s : Sink} (h : s.room = none) (bytes : List UInt8) :
    s.writeBytes bytes = (none, { s with accepted := s.accepted ++ bytes }) := by
  obtain ⟨accepted, room, refusal⟩ := s
  obtain rfl : room = none := h
  rfl

lemma writeBytes_nil (s : Sink) : s.writeBytes [] = (none, s) := by
  obtain ⟨accepted, room, refusal⟩ := s
  cases room <;> simp [writeBytes]

/-- Bytes in two parts are written as they are at once. -/
lemma writeBytes_append (a b : List UInt8) (s : Sink) :
    s.writeBytes (a ++ b) = (s.writeBytes a).andThen (writeBytes b) := by
  obtain ⟨accepted, room, refusal⟩ := s
  have hassoc : accepted ++ (a ++ b) = accepted ++ a ++ b := by
    rw [← Array.toList_inj]
    simp
  cases room with
  | none => simp only [writeBytes, Written.andThen, hassoc]
  | some room =>
      simp only [writeBytes, List.length_append]
      by_cases ha : a.length ≤ room
      · have hfits : a.length + b.length ≤ room ↔ b.length ≤ room - a.length := by omega
        have hcut : accepted ++ (a ++ b).take room = accepted ++ a ++ b.take (room - a.length) := by
          rw [← Array.toList_inj, List.take_append, List.take_of_length_le ha]
          simp
        simp only [hfits, hassoc, hcut, if_pos ha, Written.andThen, writeBytes, Nat.sub_sub]
      · -- the second part does not count once the first is cut
        have hboth : ¬ a.length + b.length ≤ room := by omega
        have hcut : (a ++ b).take room = a.take room := List.take_append_of_le_length (by omega)
        simp only [if_neg ha, if_neg hboth, hcut, Written.andThen]

/-- **Pieces are written as they are at once**, whether the sink takes all of them or not. -/
theorem writeAll_eq (pieces : List Text) (s : Sink) :
    Writer.writeAll pieces s = s.writeBytes (Text.encode pieces.flatten) := by
  induction pieces generalizing s with
  | nil => exact (writeBytes_nil s).symm
  | cons piece pieces ih =>
      rw [List.flatten_cons, Text.encode_append, writeBytes_append]
      exact congrArg (Written.andThen _) (funext ih)

/-- Pieces arrive as they are, one after the other. -/
lemma writeAll_of_room {s : Sink} (h : s.room = none) (pieces : List Text) :
    Writer.writeAll pieces s =
      (none, { s with accepted := s.accepted ++ Text.encode pieces.flatten }) := by
  rw [writeAll_eq, writeBytes_of_room h]

/-- A sink refuses nothing exactly when it has no bound: a piece that is longer than its room is
    refused. -/
theorem accepts_iff {s : Sink} : Writer.Accepts s ↔ s.room = none := by
  constructor
  · intro h
    by_contra hroom
    obtain ⟨n, hn⟩ := Option.ne_none_iff_exists'.mp hroom
    obtain ⟨accepted, room, refusal⟩ := s
    obtain rfl : room = some n := hn
    have hlen : ¬ (Text.encode (List.replicate (n + 1) 'x')).length ≤ n := by
      have hone : 'x'.utf8Size = 1 := by decide
      simp [Text.encode, hone]
    have hrefused := h [List.replicate (n + 1) 'x']
    simp [Writer.writeAll, Writer.write, writeBytes, hlen, Written.andThen] at hrefused
  · intro h pieces
    rw [writeAll_of_room h]

end Sink

/-! ## Line by line -/

namespace LineWriter

/-- Nothing was refused, nothing will be, and exactly these bytes were added. -/
structure Added (w : LineWriter) (bytes : List UInt8) (r : Written LineWriter) : Prop where
  refused : r.1 = none
  room : r.2.sink.room = none
  contents : r.2.contents = w.contents ++ bytes

variable {w : LineWriter}

lemma Added.exists_eq {bytes : List UInt8} {r : Written LineWriter} (h : Added w bytes r) :
    ∃ after, r = (none, after) ∧ after.sink.room = none ∧ after.contents = w.contents ++ bytes := by
  obtain ⟨refused, after⟩ := r
  obtain rfl : refused = none := h.refused
  exact ⟨after, rfl, h.room, h.contents⟩

/-- One write after another. -/
lemma Added.andThen {a b : List UInt8} {r : Written LineWriter}
    {next : LineWriter → Written LineWriter} (h : Added w a r)
    (hnext : r.2.sink.room = none → Added r.2 b (next r.2)) :
    Added w (a ++ b) (r.andThen next) := by
  obtain ⟨mid, rfl, hroom, hcontents⟩ := h.exists_eq
  have hmid := hnext hroom
  exact ⟨hmid.refused, hmid.room,
    by rw [Written.andThen, hmid.contents, hcontents, List.append_assoc]⟩

lemma added_nothing (h : w.sink.room = none) : Added w [] (none, w) :=
  ⟨rfl, h, (List.append_nil _).symm⟩

/-- Bytes that are held back. -/
lemma added_pending (h : w.sink.room = none) (bytes : List UInt8) :
    Added w bytes (none, { w with pending := w.pending ++ bytes }) :=
  ⟨rfl, h, by simp [contents]⟩

/-- Bytes that are passed on at once, which they may be if none are held back. -/
lemma added_pass (h : w.sink.room = none) (hpending : w.pending = []) (bytes : List UInt8) :
    Added w bytes (w.pass bytes) := by
  obtain ⟨sink, pending⟩ := w
  obtain rfl : pending = [] := hpending
  rw [pass]
  simp only [Sink.writeBytes_of_room h]
  exact ⟨rfl, h, by simp [contents, Sink.contents]⟩

lemma pending_flush (h : w.sink.room = none) : w.flush.2.pending = [] := by
  obtain ⟨sink, pending⟩ := w
  have htakes : sink.takes pending.length = pending.length := by
    have hroom : sink.room = none := h
    simp [Sink.takes, hroom]
  simp [flush, htakes]

lemma added_flush (h : w.sink.room = none) : Added w [] w.flush := by
  have hnil := pending_flush h
  obtain ⟨sink, pending⟩ := w
  have hwrite := Sink.writeBytes_of_room (s := sink) h pending
  rw [flush] at hnil ⊢
  simp only [hwrite] at hnil ⊢
  refine ⟨rfl, h, ?_⟩
  simp [contents, Sink.contents, hnil]

lemma added_hold (h : w.sink.room = none) (bytes : List UInt8) :
    Added w bytes (w.hold bytes) := by
  unfold hold
  split_ifs with hfits hfull hlong hlong
  · exact added_pending h bytes
  · exact (added_flush h).andThen fun hroom => added_pass hroom (pending_flush h) bytes
  · exact (added_flush h).andThen fun hroom => added_pending hroom bytes
  · -- bytes that fill the buffer and fit into it find it empty
    have hlen : w.pending.length = 0 := by
      have hcap : 0 < capacity := by decide
      omega
    exact added_pass h (List.eq_nil_of_length_eq_zero hlen) bytes
  · exact added_pending h bytes

lemma added_flushFinished (h : w.sink.room = none) : Added w [] w.flushFinished := by
  unfold flushFinished
  split
  · exact added_flush h
  · exact added_nothing h

/-- Cutting bytes after their last line feed loses nothing. -/
lemma splitFinished_append (bytes : List UInt8) :
    (splitFinished bytes).1 ++ (splitFinished bytes).2 = bytes := by
  obtain ⟨r, hr⟩ := List.takeWhile_prefix (l := bytes.reverse) (· != 10)
  have hsplit : bytes = r.reverse ++ (bytes.reverse.takeWhile (· != 10)).reverse := by
    rw [← List.reverse_append, hr, List.reverse_reverse]
  simp only [splitFinished]
  generalize (bytes.reverse.takeWhile (· != 10)).reverse = unfinished at hsplit ⊢
  subst hsplit
  simp

lemma added_writeBytes (h : w.sink.room = none) (bytes : List UInt8) :
    Added w bytes (w.writeBytes bytes) := by
  have hsplit := splitFinished_append bytes
  unfold writeBytes
  split
  · next unfinished heq =>
      obtain rfl : unfinished = bytes := by simpa [heq] using hsplit
      have hflush := added_flushFinished h
      exact hflush.andThen fun hroom => added_hold hroom unfinished
  · next finished unfinished _ heq =>
      obtain rfl : finished ++ unfinished = bytes := by simpa [heq] using hsplit
      have hfinished : Added w finished
          (if w.pending = [] then w.pass finished else (w.hold finished).andThen flush) := by
        split_ifs with hpending
        · exact added_pass h hpending finished
        · have hboth := (added_hold h finished).andThen fun hroom => added_flush hroom
          rwa [List.append_nil] at hboth
      exact hfinished.andThen fun hroom => added_hold hroom unfinished

/-- **Pieces are added as they are**, one after the other. -/
theorem added_writeAll (h : w.sink.room = none) (pieces : List Text) :
    Added w (Text.encode pieces.flatten) (Writer.writeAll pieces w) := by
  induction pieces generalizing w with
  | nil => exact added_nothing h
  | cons piece pieces ih =>
      rw [List.flatten_cons, Text.encode_append]
      exact (added_writeBytes h piece.encode).andThen fun hroom => ih hroom

/-- A writer that holds nothing back passes nothing on, whatever the bound of its sink. -/
lemma close_ofSink (sink : Sink) : (ofSink sink).close = sink := by
  obtain ⟨accepted, room, refusal⟩ := sink
  cases room <;> simp [ofSink, close, flush, Sink.writeBytes]

/-- In the end the sink holds everything. -/
lemma contents_close (h : w.sink.room = none) : w.close.contents = w.contents := by
  have hadded := (added_flush h).contents
  rw [List.append_nil, contents, pending_flush h, List.append_nil] at hadded
  exact hadded

end LineWriter

end MonkeyTokens
