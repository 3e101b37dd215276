import MonkeyTokens.History.File
import MonkeyTokens.Proofs.History.Contents
import MonkeyTokens.Proofs.Text.Bytes

/-!
# The history file and back

A file of text is read to its end, and the file that is written for some entries tells exactly
those entries.

* `History.unescape?_escape` — an entry comes back from its line;
* `History.textEntries`, `History.decode_encode` — what a file of text tells, said on the text;
* **`History.decode_format`** — a file that was written tells the entries it was written for;
* **`History.load_format`** — a tidy history is loaded as it was saved.

A carriage return before a line feed belongs to the ending of the line.  An entry that ends in one
would lose it, so such entries are left out.
-/

namespace MonkeyTokens

open Text

namespace History

/-! ## One entry in its line -/

/-- A character of an entry as it stands in the line. -/
def escapeChar (c : Char) : Text :=
  if c = '\\' then ['\\', '\\'] else if c = '\n' then ['\\', 'n'] else [c]

lemma escape_eq_flatMap (entry : Text) : escape entry = entry.flatMap escapeChar := rfl

lemma unescape?_escapeChar (c : Char) (more : Text) :
    unescape? (escapeChar c ++ more) = (unescape? more).map (c :: ·) := by
  unfold escapeChar
  by_cases hbackslash : c = '\\'
  · subst hbackslash
    rfl
  by_cases hnewline : c = '\n'
  · subst hnewline
    rfl
  rw [if_neg hbackslash, if_neg hnewline, List.singleton_append, unescape?]
  · exact if_neg hbackslash
  · exact fun _ heq => absurd heq hbackslash
  · exact fun _ heq => absurd heq hbackslash

/-- **An entry comes back from its line.** -/
theorem unescape?_escape (entry : Text) : unescape? (escape entry) = some entry := by
  induction entry with
  | nil => rfl
  | cons c cs ih =>
      rw [escape_eq_flatMap, List.flatMap_cons, unescape?_escapeChar, ← escape_eq_flatMap, ih]
      rfl

/-- The line of an entry is one line. -/
lemma newline_notMem_escape (entry : Text) : '\n' ∉ escape entry := by
  rw [escape_eq_flatMap, List.mem_flatMap]
  rintro ⟨c, -, hc⟩
  unfold escapeChar at hc
  split_ifs at hc with hbackslash hnewline
  · exact absurd hc (by decide)
  · exact absurd hc (by decide)
  · exact hnewline (List.mem_singleton.mp hc).symm

/-- The line of an entry ends in a carriage return only if the entry does. -/
lemma getLast?_escape_ne {entry : Text} (h : entry.getLast? ≠ some '\r') :
    (escape entry).getLast? ≠ some '\r' := by
  rcases List.eq_nil_or_concat' entry with rfl | ⟨before, c, rfl⟩
  · exact h
  · have hc : c ≠ '\r' := fun hc => h (by simp [hc])
    rw [escape_eq_flatMap, List.flatMap_append, List.flatMap_singleton, escapeChar]
    split_ifs
    · simp
    · simp
    · simpa using hc

/-! ## What a file tells -/

lemma upToMissing_map_some (texts : List Text) : upToMissing (texts.map some) = (texts, false) := by
  induction texts with
  | nil => rfl
  | cons text texts ih => rw [List.map_cons, upToMissing, ih]

/-- A file of text can be read to its end. -/
lemma readableLines_encode (content : Text) :
    readableLines content.encode =
      ((textLines content).map fun line => (Line.ofText line).body, false) := by
  have hbody : (fun line : Text => (decode? line.encode).map fun text => (Line.ofText text).body) =
      fun line => some (Line.ofText line).body := by
    funext line
    rw [decode?_encode, Option.map_some]
  rw [readableLines, rawLines_encode, List.map_map, Function.comp_def, hbody,
    ← upToMissing_map_some, List.map_map, Function.comp_def]

/-- The entries of a file of text: those of its lines, without the version line. -/
def textEntries (content : Text) : List Text :=
  let (lines, escaped) := entryLines ((textLines content).map fun line => (Line.ofText line).body)
  lines.map (entryOfLine escaped)

/-- **A file of text** tells the entries of its text, and is read to its end. -/
theorem decode_encode (content : Text) :
    (decode content.encode).entries = textEntries content ∧
      (decode content.encode).broken = false := by
  rw [decode, readableLines_encode, textEntries]
  exact ⟨rfl, rfl⟩

/-- **A file that was written** tells the entries it was written for. -/
theorem decode_format {entries : List Text}
    (h : ∀ entry ∈ entries, entry.getLast? ≠ some '\r') :
    (decode (format entries).encode).entries = entries ∧
      (decode (format entries).encode).broken = false := by
  have hlines : (textLines (format entries)).map (fun line => (Line.ofText line).body) =
      versionLine :: entries.map escape := by
    rw [format, textLines_flatMap, List.map_map]
    · refine (List.map_congr_left fun line hline => ?_).trans (List.map_id _)
      refine Line.body_ofText_line ?_
      rcases List.mem_cons.mp hline with rfl | hentry
      · decide
      · obtain ⟨entry, hmem, rfl⟩ := List.mem_map.mp hentry
        exact getLast?_escape_ne (h entry hmem)
    · intro line hline
      rcases List.mem_cons.mp hline with rfl | hentry
      · decide
      · obtain ⟨entry, -, rfl⟩ := List.mem_map.mp hentry
        exact newline_notMem_escape entry
  have hback : (entries.map escape).map (entryOfLine true) = entries := by
    rw [List.map_map]
    refine List.map_id'' (fun entry => ?_) entries
    rw [Function.comp_apply, entryOfLine, if_pos rfl, unescape?_escape, Option.getD_some]
  obtain ⟨hentries, hbroken⟩ := decode_encode (format entries)
  refine ⟨?_, hbroken⟩
  rw [hentries, textEntries, hlines, entryLines, if_pos rfl]
  exact hback

/-! ## Loading -/

/-- A history is loaded by offering the entries of its file to an empty one. -/
lemma remembers_load (file : Decoded) : (load file).Remembers file.entries :=
  remembers_empty.offerAll file.entries

/-- **A tidy history is loaded as it was saved.** -/
theorem load_format {h : History} (ht : h.Tidy)
    (hending : ∀ entry ∈ h.entries, entry.getLast? ≠ some '\r') :
    load (decode (format h.entries).encode) = ⟨h.entries, false⟩ := by
  obtain ⟨hentries, hbroken⟩ := decode_format hending
  rw [load, hentries, hbroken, ht.entries_offerAll, Bool.false_and]

end History

end MonkeyTokens
