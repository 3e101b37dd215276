import MonkeyTokens.History.Basic
import MonkeyTokens.Prompt.Completion
import MonkeyTokens.Session.Entry

/-!
# A session at a terminal

At a terminal an entry is typed key by key, with completion on the tabulator key.  Accepted
entries are offered to the history before they are evaluated.

Keys are fetched together as far as they are typed already, and those fetched with the end of an
entry are lost.

* `Terminal.Editing` — the entry so far, and the completion that is under way;
* `Terminal.press` — one key;
* `Terminal.fetches` — typed keys as they are fetched;
* `Terminal.run` — the session, from its banner to its end.
-/

namespace MonkeyTokens.Terminal

/-- A completion that is under way: each further tabulator key goes on to the next offer, and
    after the last to the entry as it was. -/
structure Cycle where
  /-- The entry before the first tabulator key. -/
  before : Text
  /-- What can be put in. -/
  replacements : List Text
  /-- Which one is put in; none if it is their number. -/
  index : Nat
  deriving DecidableEq, Repr

namespace Cycle

/-- The entry that a completion shows. -/
def shown (c : Cycle) : Text :=
  c.before ++ c.replacements.getD c.index []

/-- Goes on to the next offer. -/
def next (c : Cycle) : Cycle :=
  { c with index := (c.index + 1) % (c.replacements.length + 1) }

end Cycle

/-- An entry that is being typed. -/
structure Editing where
  entry : Text
  cycle : Option Cycle
  deriving DecidableEq, Repr

/-- An entry of which nothing is typed. -/
def Editing.empty : Editing :=
  ⟨[], none⟩

/-- What a key leads to. -/
inductive Reaction where
  /-- Typing goes on. -/
  | typing (editing : Editing)
  /-- The entry is accepted. -/
  | accepted (entry : Text)
  /-- The entry is dropped. -/
  | interrupted
  /-- No more entries will come. -/
  | ended
  /-- The hint for the entry could not be worked out, or its brackets not be counted. -/
  | crashed
  deriving DecidableEq, Repr

/-- Goes on typing with an entry, for which a hint is shown. -/
def shownWithHint (entry : Text) : Reaction :=
  match Completion.hint entry entry.byteLength with
  | .ok _ => .typing ⟨entry, none⟩
  | .error _ => .crashed

/-- The tabulator key. -/
def complete (e : Editing) : Reaction :=
  match e.cycle with
  | some cycle => .typing ⟨cycle.next.shown, some cycle.next⟩
  | none =>
    match Completion.complete e.entry e.entry.byteLength with
    | .error _ => .crashed
    | .ok (_, []) => .typing e
    | .ok (_, offers) =>
      let cycle : Cycle := ⟨e.entry, offers.map Completion.Offer.replacement, 0⟩
      .typing ⟨cycle.shown, some cycle⟩

/-- One key: the tabulator completes, Enter accepts a finished entry and starts a new line in any
    other, Ctrl+C drops the entry, Ctrl+D ends an empty one, and any other key types its
    character. -/
def press (key : Char) (e : Editing) : Reaction :=
  if key = '\t' then complete e
  else if key = '\r' then
    match Balance.acceptsWord? e.entry with
    | none => .crashed
    | some true => .accepted e.entry
    | some false => shownWithHint (e.entry ++ ['\n'])
  else if key = '\x03' then .interrupted
  else if key = '\x04' then if e.entry = [] then .ended else .typing ⟨e.entry, none⟩
  else shownWithHint (e.entry ++ [key])

/-- A session between two keys. -/
structure State where
  editing : Editing
  history : History
  console : Console
  deriving Repr

/-- Goes on after a key. -/
def react (ctx : Context) (s : State) : Reaction → Flow × State
  | .typing editing => (.proceed, { s with editing })
  | .accepted entry =>
    let (flow, console) := Entry.evaluate ctx entry s.console
    (flow, ⟨.empty, (s.history.offer entry).1, console⟩)
  | .interrupted =>
    let (flow, console) := s.console.say [Page.interrupted]
    (flow, { s with editing := .empty, console })
  | .ended =>
    let (flow, console) := s.console.say [Page.ended]
    (if flow = .proceed then .quit else flow, { s with console })
  | .crashed => (.crash, s)

/-- Reads keys that are fetched together, up to the end of an entry. -/
def readFetch (ctx : Context) : Text → State → Flow × State
  | [], s => (.proceed, s)
  | key :: keys, s =>
    match press key s.editing with
    | .typing editing => readFetch ctx keys { s with editing }
    | reaction => react ctx s reaction

/-- Reads all keys, as long as the session goes on.  When there are no more, nothing is being typed,
    and Ctrl+D follows. -/
def readFetches (ctx : Context) : List Text → State → Flow × State
  | [], s => react ctx { s with editing := .empty } (press '\x04' .empty)
  | fetch :: fetches, s =>
    match readFetch ctx fetch s with
    | (.proceed, s) => readFetches ctx fetches s
    | (flow, s) => (flow, s)

/-- The number of bytes that are fetched together at most. -/
def fetchSize : Nat := 1024

/-- The keys of a text as they are fetched, if there is room left for some in the first fetch. -/
def fetchesFrom (room : Nat) : Text → List Text
  | [] => [[]]
  | key :: keys =>
    let fits := key.utf8Size ≤ room
    match fetchesFrom ((if fits then room else fetchSize) - key.utf8Size) keys with
    | [] => [[key]]
    | fetch :: fetches =>
      if fits then (key :: fetch) :: fetches else [] :: (key :: fetch) :: fetches

/-- Keys that are typed together as they are fetched. -/
def fetches (keys : Text) : List Text :=
  fetchesFrom fetchSize keys

/-- A session in which the given texts are typed, one at each prompt. -/
def run (ctx : Context) (user : Text) (typed : List Text) (history : History) (con : Console) :
    Flow × History × Console :=
  match con.say (Page.banner user) with
  | (.proceed, console) =>
    let (flow, s) := readFetches ctx (typed.flatMap fetches) ⟨.empty, history, console⟩
    (flow, s.history, s.console)
  | (flow, console) => (flow, history, console)

end MonkeyTokens.Terminal
