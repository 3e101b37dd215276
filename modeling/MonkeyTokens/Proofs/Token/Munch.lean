import MonkeyTokens.Proofs.Token.Grammar
import Mathlib.Data.List.TakeWhile

/-!
# Reading one lexeme

What `munch` takes, in terms of the grammar.

* `munch_of_stops`, `munch_of_grows` — at a lexeme, exactly that lexeme is read if what follows
  does not grow it, and more than it if what follows does;
* `exists_munch` — at a character that is no space, what is read is a lexeme that does not grow;
* `Grammar.Lexeme.exists_longer` — a lexeme that grows is the beginning of one that does not;
* **`Grammar.Lexeme.stops_iff_longest`** — a lexeme is the longest at its place exactly when the
  character after it does not grow it.  One character of lookahead is enough.
-/

namespace MonkeyTokens

open Grammar

/-! ## By the first character -/

lemma munch_digit {c : Char} (h : Digit c) (rest : Text) :
    munch c rest = (.integer, rest.takeWhile Char.isDigit) := by
  have heq : c ≠ '=' := by rintro rfl; exact absurd h (by decide)
  have hbang : c ≠ '!' := by rintro rfl; exact absurd h (by decide)
  rw [munch, if_neg heq, if_neg hbang, if_pos (isDigit_iff.mpr h)]

lemma munch_name {c : Char} (h : NameStart c) (rest : Text) :
    munch c rest =
      (.ofWord (c :: rest.takeWhile continuesName), rest.takeWhile continuesName) := by
  have heq : c ≠ '=' := by rintro rfl; exact absurd h (by decide)
  have hbang : c ≠ '!' := by rintro rfl; exact absurd h (by decide)
  have hdigit : ¬ c.isDigit = true := fun hd => not_digit_of_nameStart h (isDigit_iff.mp hd)
  rw [munch, if_neg heq, if_neg hbang, if_neg hdigit, if_pos (startsName_iff.mpr h)]

lemma munch_single {c : Char} (heq : c ≠ '=') (hbang : c ≠ '!') (hdigit : ¬ Digit c)
    (hname : ¬ NameStart c) (rest : Text) :
    munch c rest = ((Kind.ofCharacter? c).getD .illegal, []) := by
  rw [← isDigit_iff] at hdigit
  rw [← startsName_iff] at hname
  rw [munch, if_neg heq, if_neg hbang, if_neg hdigit, if_neg hname]

lemma grows_ofWord {t : Text} {d : Char} : Grows (.ofWord t) d ↔ NamePart d := by
  unfold Kind.ofWord
  split <;> exact Iff.rfl

lemma not_grows_single {c d : Char} : ¬ Grows ((Kind.ofCharacter? c).getD .illegal) d := by
  unfold Kind.ofCharacter?
  split <;> exact not_false

/-! ## Runs -/

lemma takeWhile_append_of_stop {p : Char → Bool} {t rest : Text} (ht : ∀ c ∈ t, p c = true)
    (hrest : ∀ d ∈ rest.head?, ¬ p d = true) : (t ++ rest).takeWhile p = t := by
  rw [List.takeWhile_append_of_pos ht]
  cases rest with
  | nil => simp
  | cons d r => simp [hrest d rfl]

lemma takeWhile_append_cons {p : Char → Bool} {t : Text} {d : Char} (ht : ∀ c ∈ t, p c = true)
    (hd : p d = true) (rest : Text) :
    (t ++ d :: rest).takeWhile p = t ++ d :: rest.takeWhile p := by
  rw [List.takeWhile_append_of_pos ht, List.takeWhile_cons_of_pos hd]

/-! ## At a lexeme -/

/-- A lexeme is read whole, and nothing more, where what follows does not grow it. -/
theorem munch_of_stops {k : Kind} {c : Char} {t rest : Text} (h : Lexeme k (c :: t))
    (hs : Stops k rest) : munch c (t ++ rest) = (k, t) := by
  cases lexeme_iff_shape.mp h with
  | number hc ht =>
      have hrun : (t ++ rest).takeWhile Char.isDigit = t :=
        takeWhile_append_of_stop (fun d hd => isDigit_iff.mpr (ht d hd))
          fun d hd hdigit => hs d hd (isDigit_iff.mp hdigit)
      rw [munch_digit hc, hrun]
  | word hc ht =>
      have hrun : (t ++ rest).takeWhile continuesName = t :=
        takeWhile_append_of_stop (fun d hd => continuesName_iff.mpr (ht d hd))
          fun d hd hpart => hs d hd (grows_ofWord.mpr (continuesName_iff.mp hpart))
      rw [munch_name hc, hrun]
  | assign =>
      have hne : rest.head? ≠ some '=' := fun hd => hs '=' hd rfl
      simp [munch, hne]
  | bang =>
      have hne : rest.head? ≠ some '=' := fun hd => hs '=' hd rfl
      simp [munch, hne]
  | equal | notEqual => simp [munch]
  | single heq hbang hdigit hname _ => exact munch_single heq hbang hdigit hname rest

/-- More than a lexeme is read where what follows grows it. -/
theorem munch_of_grows {k : Kind} {c d : Char} {t : Text} (h : Lexeme k (c :: t))
    (hd : Grows k d) (rest : Text) : ∃ more, (munch c (t ++ d :: rest)).2 = t ++ d :: more := by
  cases lexeme_iff_shape.mp h with
  | number hc ht =>
      refine ⟨rest.takeWhile Char.isDigit, ?_⟩
      rw [munch_digit hc]
      exact takeWhile_append_cons (fun d hd => isDigit_iff.mpr (ht d hd)) (isDigit_iff.mpr hd) rest
  | word hc ht =>
      refine ⟨rest.takeWhile continuesName, ?_⟩
      rw [munch_name hc]
      exact takeWhile_append_cons (fun d hd => continuesName_iff.mpr (ht d hd))
        (continuesName_iff.mpr (grows_ofWord.mp hd)) rest
  | assign =>
      obtain rfl : d = '=' := hd
      exact ⟨[], rfl⟩
  | bang =>
      obtain rfl : d = '=' := hd
      exact ⟨[], rfl⟩
  | equal | notEqual => exact hd.elim
  | single => exact absurd hd not_grows_single

/-! ## At any character -/

/-- What is read starts what follows the first character. -/
lemma munch_prefix (c : Char) (rest : Text) : (munch c rest).2 <+: rest := by
  unfold munch
  have hone : rest.head? = some '=' → ['='] <+: rest := by
    intro h
    obtain ⟨r, rfl⟩ := List.head?_eq_some_iff.mp h
    exact List.cons_prefix_cons.mpr ⟨rfl, List.nil_prefix⟩
  split_ifs with h1 h2 h3 h4 h5 h6
  · exact hone h2
  · exact List.nil_prefix
  · exact hone h4
  · exact List.nil_prefix
  · exact List.takeWhile_prefix _
  · exact List.takeWhile_prefix _
  · exact List.nil_prefix

/-- What is read at a character that is no space is a lexeme. -/
lemma lexeme_munch {c : Char} (hc : ¬ Spacing c) (rest : Text) :
    Lexeme (munch c rest).1 (c :: (munch c rest).2) := by
  rw [lexeme_iff_shape]
  unfold munch
  split_ifs with h1 h2 h3 h4 h5 h6
  · rw [h1]; exact .equal
  · rw [h1]; exact .assign
  · rw [h3]; exact .notEqual
  · rw [h3]; exact .bang
  · exact .number (isDigit_iff.mp h5) fun d hd => isDigit_iff.mp (List.mem_takeWhile_imp hd)
  · exact .word (startsName_iff.mp h6) fun d hd =>
      continuesName_iff.mp (List.mem_takeWhile_imp hd)
  · rw [isDigit_iff] at h5
    rw [startsName_iff] at h6
    exact .single h1 h3 h5 h6 hc

/-- **Reading at a character that is no space** splits what is left into a lexeme and a rest that
    does not grow it.  Were it to grow, more would have been read. -/
theorem exists_munch {c : Char} (hc : ¬ Spacing c) (rest : Text) :
    ∃ k t rest', rest = t ++ rest' ∧ munch c rest = (k, t) ∧ Lexeme k (c :: t) ∧ Stops k rest' := by
  have hlex := lexeme_munch hc rest
  obtain ⟨rest', hrest⟩ := munch_prefix c rest
  generalize hm : munch c rest = read at hlex hrest
  obtain ⟨k, t⟩ := read
  refine ⟨k, t, rest', hrest.symm, rfl, hlex, fun d hd hgrows => ?_⟩
  obtain ⟨r, rfl⟩ := List.head?_eq_some_iff.mp hd
  obtain ⟨more, hmore⟩ := munch_of_grows hlex hgrows r
  rw [hrest, hm] at hmore
  simp at hmore

/-- **A lexeme that grows** is the beginning of a longer one, which does not. -/
theorem Grammar.Lexeme.exists_longer {k : Kind} {t : Text} {d : Char} (h : Lexeme k t)
    (hd : Grows k d) (b : Text) :
    ∃ j more rest, b = more ++ rest ∧ Lexeme j (t ++ d :: more) ∧ Stops j rest := by
  obtain ⟨c, u, rfl, -⟩ := h.exists_shape
  have hc : ¬ Spacing c := h.not_spacing c (by simp)
  obtain ⟨j, v, rest, hsplit, hread, hlex, hstop⟩ := exists_munch hc (u ++ d :: b)
  obtain ⟨more, hmore⟩ := munch_of_grows h hd b
  obtain rfl : v = u ++ d :: more := by rw [← hmore, hread]
  exact ⟨j, more, rest, by simpa using hsplit, hlex, hstop⟩

/-- **Longest match, locally.**  A lexeme is the longest one at its place exactly when the
    character after it does not grow it. -/
theorem Grammar.Lexeme.stops_iff_longest {k : Kind} {t rest : Text} (h : Lexeme k t) :
    Stops k rest ↔ ∀ j p, Lexeme j p → p <+: t ++ rest → p.length ≤ t.length := by
  obtain ⟨c, u, rfl, hs⟩ := h.exists_shape
  constructor
  · rintro hstop j p hp ⟨r, hr⟩
    obtain ⟨d, q, rfl, -⟩ := hp.exists_shape
    obtain ⟨rfl, hq⟩ : d = c ∧ q ++ r = u ++ rest := by simpa using hr
    have hread := munch_of_stops h hstop
    rw [← hq] at hread
    by_cases hj : Stops j r
    · rw [munch_of_stops hp hj] at hread
      obtain rfl : q = u := congrArg Prod.snd hread
      simp
    · simp only [Stops, not_forall, not_not] at hj
      obtain ⟨e, he, hgrows⟩ := hj
      obtain ⟨r', rfl⟩ := List.head?_eq_some_iff.mp he
      obtain ⟨more, hmore⟩ := munch_of_grows hp hgrows r'
      rw [hread] at hmore
      simp only at hmore
      simp [hmore]
  · intro hlong d hd hgrows
    obtain ⟨r, rfl⟩ := List.head?_eq_some_iff.mp hd
    obtain ⟨j, more, r', rfl, hlonger, -⟩ := h.exists_longer hgrows r
    have hlen := hlong j _ hlonger ⟨r', by simp⟩
    simp only [List.length_append, List.length_cons] at hlen
    omega

end MonkeyTokens
