import MonkeyTokens.Text.Blank

/-!
# History of entries

The prompt remembers the entries that were accepted, up to a bound.

* `History` — the entries, oldest first, and whether some are not saved yet;
* `History.refuses` — what is never remembered: nothing, what starts with a blank character, and
  what was remembered last;
* `History.offer` — remembers an entry unless it is refused; the oldest goes if there are too
  many.
-/

namespace MonkeyTokens

/-- What the prompt remembers. -/
structure History where
  /-- The entries, oldest first. -/
  entries : List Text
  /-- An entry was added that is not saved. -/
  unsaved : Bool
  deriving DecidableEq, Repr

namespace History

/-- The history of a first start. -/
def empty : History :=
  ⟨[], false⟩

/-- How many entries are remembered at most. -/
def maxEntries : Nat := 1000

/-- The entry is not worth remembering whatever is remembered already: it is empty or starts with
    a blank character. -/
def isHidden (entry : Text) : Bool :=
  match entry.head? with
  | none => true
  | some c => Text.isBlank c

/-- The entry is not to be remembered now. -/
def refuses (h : History) (entry : Text) : Bool :=
  isHidden entry || h.entries.getLast? = some entry

/-- Remembers an entry unless it is refused, and tells whether it did. -/
def offer (h : History) (entry : Text) : History × Bool :=
  if h.refuses entry then (h, false)
  else (⟨(h.entries ++ [entry]).drop (h.entries.length + 1 - maxEntries), true⟩, true)

/-- Offers entries one after the other. -/
def offerAll (h : History) (entries : List Text) : History :=
  entries.foldl (fun h entry => (h.offer entry).1) h

end History

end MonkeyTokens
