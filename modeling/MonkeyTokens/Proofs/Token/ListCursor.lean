import MonkeyTokens.Proofs.Token.Stream

/-!
# A cursor is a list that is used up

Whatever a cursor is asked for, and in whatever order, it answers as a list of tokens would of
which each request takes some from the front.

* `Request`, `Answer` — what a cursor can be asked for, and what it answers;
* `Cursor.serve` — a request to a cursor, `ListCursor.serve` — the same request to a list;
* `Cursor.Holds` — the tokens that a cursor has still to give, and one lemma about it for each
  request;
* `serveAll` — requests in a row;
* **`answers_eq_listCursor`** — any requests in a row have the same answers from both.

A list has no end-of-input token in it.  The two differ in what they keep (a place in a source, or
a list), so they are compared by their answers alone.
-/

namespace MonkeyTokens

open Grammar Text

/-! ## Requests -/

/-- What a cursor can be asked for. -/
inductive Request where
  | nextToken
  | next
  | nth (k : Nat)
  | take (k : Nat)
  | find (kind : Kind)
  | count
  | last
  /-- To start again at the start of the source. -/
  | restart
  deriving DecidableEq, Repr

/-- What is answered to a request. -/
inductive Answer where
  | token (t : Token)
  | token? (t : Option Token)
  | tokens (ts : List Token)
  | number (n : Nat)
  | done
  deriving DecidableEq, Repr

/-- A request to a cursor in the given source. -/
def Cursor.serve (source : Text) : Request → Cursor → Answer × Cursor
  | .nextToken, c => c.nextToken.map .token id
  | .next, c => c.next?.map .token? id
  | .nth k, c => (c.nth? k).map .token? id
  | .take k, c => (c.take k).map .tokens id
  | .find kind, c => (c.find? kind).map .token? id
  | .count, c => c.count.map .number id
  | .last, c => c.last?.map .token? id
  | .restart, _ => (.done, .ofText source)

/-- A list of tokens, of which some are used up. -/
structure ListCursor where
  /-- All of them. -/
  all : List Token
  /-- Those that are left. -/
  left : List Token
  /-- Where the end of the input stands. -/
  stop : Nat
  deriving DecidableEq, Repr

namespace ListCursor

/-- The tokens of a source, none of them used up. -/
def ofText (source : Text) : ListCursor :=
  ⟨Cursor.tokens source, Cursor.tokens source, byteLength source⟩

/-- A request to a list. -/
def serve (request : Request) (l : ListCursor) : Answer × ListCursor :=
  match request with
  | .nextToken => (.token (l.left.head?.getD (.endOfInput l.stop)), { l with left := l.left.tail })
  | .next => (.token? l.left.head?, { l with left := l.left.tail })
  | .nth k => (.token? l.left[k]?, { l with left := l.left.drop (k + 1) })
  | .take k => (.tokens (l.left.take k), { l with left := l.left.drop k })
  | .find kind =>
    (.token? (l.left.find? fun t => t.kind = kind),
      { l with left := (l.left.dropWhile fun t => t.kind ≠ kind).tail })
  | .count => (.number l.left.length, { l with left := [] })
  | .last => (.token? l.left.getLast?, { l with left := [] })
  | .restart => (.done, { l with left := l.all })

end ListCursor

/-- Requests in a row, each in the state that the one before it left: what they are answered, and
    the state after them. -/
def serveAll {σ : Type} (serve : Request → σ → Answer × σ) : List Request → σ → List Answer × σ
  | [], s => ([], s)
  | request :: requests, s =>
    let (answer, s) := serve request s
    let (answers, s) := serveAll serve requests s
    (answer :: answers, s)

/-! ## What a cursor holds -/

namespace Cursor

/-- The cursor has exactly these tokens still to give, and the end of the input at `stop`. -/
def Holds (stop : Nat) (c : Cursor) (ts : List Token) : Prop :=
  ∃ n rest, c = before n rest ∧ Scanned n rest ts ∧ n + byteLength rest = stop

variable {stop : Nat} {c : Cursor} {ts : List Token}

lemma holds_ofText (source : Text) : Holds (byteLength source) (ofText source) (tokens source) :=
  ⟨0, source, ofText_eq_before source, scanned_tokens source, Nat.zero_add _⟩

/-- No token that a cursor holds is the end of the input. -/
lemma Holds.isEof_eq_false (h : Holds stop c ts) : ∀ t ∈ ts, t.isEof = false := by
  obtain ⟨n, rest, -, hscan, -⟩ := h
  intro t ht
  have hne := (hscan.lexeme t ht).ne_eof
  simp [Token.isEof, hne]

/-- **One call** takes the first token, or finds the end of the input and stays there. -/
theorem Holds.exists_nextToken (h : Holds stop c ts) :
    ∃ d, c.nextToken = (ts.head?.getD (.endOfInput stop), d) ∧ Holds stop d ts.tail := by
  obtain ⟨n, rest, rfl, hscan, hstop⟩ := h
  cases hscan with
  | done hgap =>
      refine ⟨_, nextToken_of_gap hgap n |>.trans ?_, n + byteLength rest, [], rfl, ?_, hstop⟩
      · rw [hstop]
        rfl
      · exact .done (by simp [Gap])
  | @token _ gap text rest k us hgap hlex hstop' hscan =>
      refine ⟨_, nextToken_of_lexeme hgap hlex hstop' n, _, rest, rfl, hscan, ?_⟩
      rw [← hstop]
      simp only [byteLength_append, Nat.add_assoc]

lemma Holds.exists_next? (h : Holds stop c ts) :
    ∃ d, c.next? = (ts.head?, d) ∧ Holds stop d ts.tail := by
  obtain ⟨d, hcall, hd⟩ := h.exists_nextToken
  refine ⟨d, ?_, hd⟩
  rw [next?, hcall]
  cases ts with
  | nil => rfl
  | cons t us =>
      have hne : t.isEof = false := h.isEof_eq_false t (by simp)
      simp [hne]

lemma Holds.exists_nth? (h : Holds stop c ts) (k : Nat) :
    ∃ d, c.nth? k = (ts[k]?, d) ∧ Holds stop d (ts.drop (k + 1)) := by
  induction k generalizing c ts with
  | zero =>
      obtain ⟨d, hnext, hd⟩ := h.exists_next?
      exact ⟨d, by rw [nth?, hnext, List.head?_eq_getElem?], by rwa [List.drop_one]⟩
  | succ k ih =>
      obtain ⟨d, hnext, hd⟩ := h.exists_next?
      cases ts with
      | nil => exact ⟨d, by rw [nth?, hnext]; rfl, by simpa using hd⟩
      | cons t us =>
          obtain ⟨e, hnth, he⟩ := ih hd
          exact ⟨e, by rw [nth?, hnext]; exact hnth, he⟩

lemma Holds.exists_take (h : Holds stop c ts) (k : Nat) :
    ∃ d, c.take k = (ts.take k, d) ∧ Holds stop d (ts.drop k) := by
  induction k generalizing c ts with
  | zero => exact ⟨c, rfl, h⟩
  | succ k ih =>
      obtain ⟨d, hnext, hd⟩ := h.exists_next?
      cases ts with
      | nil => exact ⟨d, by rw [take, hnext]; rfl, hd⟩
      | cons t us =>
          obtain ⟨e, htake, he⟩ := ih hd
          refine ⟨e, ?_, he⟩
          rw [take, hnext]
          simp only [List.head?_cons]
          rw [List.tail_cons] at htake
          rw [htake, List.take_succ_cons]

lemma Holds.exists_find? (h : Holds stop c ts) (kind : Kind) :
    ∃ d, c.find? kind = (ts.find? (fun t => t.kind = kind), d) ∧
      Holds stop d (ts.dropWhile fun t => t.kind ≠ kind).tail := by
  induction ts generalizing c with
  | nil =>
      obtain ⟨d, hnext, hd⟩ := h.exists_next?
      exact ⟨d, by rw [find?, hnext]; rfl, hd⟩
  | cons t us ih =>
      obtain ⟨d, hnext, hd⟩ := h.exists_next?
      rw [find?, hnext]
      by_cases hk : t.kind = kind
      · exact ⟨d, by simp [hk], by simpa [hk] using hd⟩
      · obtain ⟨e, hfind, he⟩ := ih hd
        exact ⟨e, by simpa [hk] using hfind, by simpa [hk] using he⟩

lemma Holds.exists_remaining (h : Holds stop c ts) :
    ∃ d, c.remaining = (ts, d) ∧ Holds stop d [] := by
  obtain ⟨n, rest, rfl, hscan, hstop⟩ := h
  refine ⟨before stop [], ?_, stop, [], rfl, .done (by simp [Gap]), rfl⟩
  rw [remaining_of_scanned hscan, hstop]

end Cursor

/-! ## The two side by side -/

/-- The cursor and the list have the same tokens left, of the same source. -/
def Alike (source : Text) (c : Cursor) (l : ListCursor) : Prop :=
  l.all = Cursor.tokens source ∧ l.stop = byteLength source ∧ c.Holds l.stop l.left

/-- **One request** has the same answer from both, and leaves both alike. -/
theorem Alike.serve {source : Text} {c : Cursor} {l : ListCursor} (h : Alike source c l)
    (request : Request) :
    (c.serve source request).1 = (l.serve request).1 ∧
      Alike source (c.serve source request).2 (l.serve request).2 := by
  obtain ⟨hall, hstop, hold⟩ := h
  cases request with
  | nextToken =>
      obtain ⟨d, hcall, hd⟩ := hold.exists_nextToken
      rw [Cursor.serve, hcall]
      exact ⟨rfl, hall, hstop, hd⟩
  | next =>
      obtain ⟨d, hcall, hd⟩ := hold.exists_next?
      rw [Cursor.serve, hcall]
      exact ⟨rfl, hall, hstop, hd⟩
  | nth k =>
      obtain ⟨d, hcall, hd⟩ := hold.exists_nth? k
      rw [Cursor.serve, hcall]
      exact ⟨rfl, hall, hstop, hd⟩
  | take k =>
      obtain ⟨d, hcall, hd⟩ := hold.exists_take k
      rw [Cursor.serve, hcall]
      exact ⟨rfl, hall, hstop, hd⟩
  | find kind =>
      obtain ⟨d, hcall, hd⟩ := hold.exists_find? kind
      rw [Cursor.serve, hcall]
      exact ⟨rfl, hall, hstop, hd⟩
  | count =>
      obtain ⟨d, hcall, hd⟩ := hold.exists_remaining
      rw [Cursor.serve, Cursor.count, hcall]
      exact ⟨rfl, hall, hstop, hd⟩
  | last =>
      obtain ⟨d, hcall, hd⟩ := hold.exists_remaining
      rw [Cursor.serve, Cursor.last?, hcall]
      exact ⟨rfl, hall, hstop, hd⟩
  | restart =>
      refine ⟨rfl, hall, hstop, ?_⟩
      show Cursor.Holds l.stop (.ofText source) l.all
      rw [hstop, hall]
      exact Cursor.holds_ofText source

/-- Any requests in a row, by induction on them. -/
theorem Alike.serveAll {source : Text} {c : Cursor} {l : ListCursor} (h : Alike source c l)
    (requests : List Request) :
    (serveAll (Cursor.serve source) requests c).1 = (serveAll ListCursor.serve requests l).1 ∧
      Alike source (serveAll (Cursor.serve source) requests c).2
        (serveAll ListCursor.serve requests l).2 := by
  induction requests generalizing c l with
  | nil => exact ⟨rfl, h⟩
  | cons request requests ih =>
      obtain ⟨hanswer, hnext⟩ := h.serve request
      obtain ⟨hanswers, hlast⟩ := ih hnext
      exact ⟨congrArg₂ List.cons hanswer hanswers, hlast⟩

/-- To look for the end of the input uses up what is left, and finds nothing. -/
lemma Alike.find_eof {source : Text} {c : Cursor} {l : ListCursor} (h : Alike source c l) :
    l.serve (.find .eof) = (.token? none, { l with left := [] }) := by
  have hkind : ∀ t ∈ l.left, t.kind ≠ .eof := by
    intro t ht
    simpa [Token.isEof] using h.2.2.isEof_eq_false t ht
  have hfind : l.left.find? (fun t => t.kind = .eof) = none := by
    simpa using hkind
  have hdrop : (l.left.dropWhile fun t => t.kind ≠ .eof) = [] := by
    simpa [List.dropWhile_eq_nil_iff] using hkind
  simp only [ListCursor.serve, hfind, hdrop, List.tail_nil]

/-- **A cursor is a list that is used up.**  Whatever requests it gets in a row, its answers are
    those of the list of all tokens before the end of the input.  That list has no end-of-input
    token in it, so that to look for one finds nothing at any time, and leaves nothing. -/
theorem answers_eq_listCursor (source : Text) (requests : List Request) :
    (serveAll (Cursor.serve source) requests (.ofText source)).1 =
        (serveAll ListCursor.serve requests (.ofText source)).1 ∧
      (∀ t ∈ (ListCursor.ofText source).all, t.isEof = false) ∧
      let l := (serveAll ListCursor.serve requests (.ofText source)).2
      l.serve (.find .eof) = (.token? none, { l with left := [] }) := by
  have hold := Cursor.holds_ofText source
  have halike : Alike source (.ofText source) (.ofText source) := ⟨rfl, rfl, hold⟩
  obtain ⟨hanswers, hlast⟩ := halike.serveAll requests
  exact ⟨hanswers, hold.isEof_eq_false, hlast.find_eof⟩

/-- In `x=1`, after both tokens that are asked for are taken, two more than are left are not there
    and use up the third; then all requests answer that nothing is left, until a restart. -/
theorem answers_eq_listCursor_restart :
    ⟨.operator .assign, ['='], ⟨1, 2⟩⟩ ∈ (ListCursor.ofText "x=1".toList).all ∧
      (⟨.operator .assign, ['='], ⟨1, 2⟩⟩ : Token).isEof = false ∧
      (serveAll (Cursor.serve "x=1".toList)
          [.take 2, .nth 1, .nextToken, .next, .count, .restart, .find (.operator .assign), .last]
          (.ofText "x=1".toList)).1 =
        [.tokens [⟨.identifier, ['x'], ⟨0, 1⟩⟩, ⟨.operator .assign, ['='], ⟨1, 2⟩⟩],
          .token? none, .token ⟨.eof, [], ⟨3, 3⟩⟩, .token? none, .number 0, .done,
          .token? (some ⟨.operator .assign, ['='], ⟨1, 2⟩⟩),
          .token? (some ⟨.integer, ['1'], ⟨2, 3⟩⟩)] :=
  have hmem : ⟨.operator .assign, ['='], ⟨1, 2⟩⟩ ∈ (ListCursor.ofText "x=1".toList).all := by
    decide +kernel
  ⟨hmem, (answers_eq_listCursor _ []).2.1 _ hmem,
    (answers_eq_listCursor _ _).1.trans (by decide +kernel)⟩

end MonkeyTokens
