import MonkeyTokens.History.Basic
import MonkeyTokens.Text.Line

/-!
# The history file

A history file starts with a version line, and has one entry in each further line.  A backslash
in an entry is written twice, and a line feed as a backslash and an `n`.  A file without the
version line holds entries as they are.

* `History.escape`, `History.unescape?` — an entry in its line, and back;
* `History.format` — the file of some entries;
* `History.decode` — the entries of a file, as far as it can be read;
* `History.load` — a history from the bytes of a file.
-/

namespace MonkeyTokens.History

/-- The first line of a file whose entries are escaped. -/
def versionLine : Text :=
  "#V2".toList

/-- An entry as it stands in its line. -/
def escape (entry : Text) : Text :=
  entry.flatMap fun c =>
    if c = '\\' then ['\\', '\\'] else if c = '\n' then ['\\', 'n'] else [c]

/-- The entry of a line.  A backslash that starts no escape makes the line no written entry. -/
def unescape? : Text → Option Text
  | [] => some []
  | '\\' :: '\\' :: cs => (unescape? cs).map ('\\' :: ·)
  | '\\' :: 'n' :: cs => (unescape? cs).map ('\n' :: ·)
  | c :: cs => if c = '\\' then none else (unescape? cs).map (c :: ·)

/-- The file of some entries. -/
def format (entries : List Text) : Text :=
  (versionLine :: entries.map escape).flatMap (· ++ ['\n'])

/-- Texts up to the first that is missing, and whether one is. -/
def upToMissing : List (Option Text) → List Text × Bool
  | [] => ([], false)
  | none :: _ => ([], true)
  | some t :: ts =>
    let (texts, missing) := upToMissing ts
    (t :: texts, missing)

/-- The lines of a file without their endings, up to the first that is no UTF-8, and whether
    there is such a line. -/
def readableLines (bytes : List UInt8) : List Text × Bool :=
  upToMissing
    ((rawLines bytes).map fun line => (Text.decode? line).map fun text => (Line.ofText text).body)

/-- The lines that hold entries, and whether they are escaped. -/
def entryLines : List Text → List Text × Bool
  | [] => ([], false)
  | first :: more => if first = versionLine then (more, true) else (first :: more, false)

/-- The entry of a line.  A line that is no written entry is taken as it is. -/
def entryOfLine (escaped : Bool) (line : Text) : Text :=
  if escaped then (unescape? line).getD line else line

/-- What a file tells. -/
structure Decoded where
  /-- Its entries, before any is refused. -/
  entries : List Text
  /-- The lines that should be escaped, and are not. -/
  malformed : List Text
  /-- There was a line that is no UTF-8, and nothing was read from there on. -/
  broken : Bool
  deriving DecidableEq, Repr

/-- What the bytes of a file tell. -/
def decode (bytes : List UInt8) : Decoded :=
  let (lines, broken) := readableLines bytes
  let (lines, escaped) := entryLines lines
  { entries := lines.map (entryOfLine escaped)
    malformed := lines.filter fun line => escaped && (unescape? line).isNone
    broken }

/-- The history after a start.  What was loaded counts as saved, unless the file could not be
    read to its end. -/
def load (file : Decoded) : History :=
  let history := empty.offerAll file.entries
  { history with unsaved := file.broken && history.unsaved }

end MonkeyTokens.History
