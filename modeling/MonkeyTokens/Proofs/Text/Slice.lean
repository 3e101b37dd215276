import MonkeyTokens.Text.Utf8
import Mathlib.Tactic.Lemma

/-!
# Slices and boundaries

A text can be cut only between two of its characters.  This file says what a successful cut
means, so that no later proof opens the functions that count bytes.

* `Text.IsBoundary` — a byte offset between two characters, or at one of the two ends;
* `Text.dropBytes?_eq_some_iff`, `Text.takeBytes?_eq_some_iff` — a cut gives the second or the
  first part of a text whose first part has that many bytes;
* **`Text.slice_eq_ok_iff`** — a slice is the middle one of three parts; `Text.exists_slice_iff` —
  there is one between two boundaries in order, and `Text.isBoundary_succ_iff` — none inside a
  character;
* `Text.append_inj_of_byteLength` — two ways to split a text at the same byte are one.
-/

namespace MonkeyTokens

namespace Text

/-- A character ends, or the text starts, after `n` bytes. -/
def IsBoundary (t : Text) (n : Nat) : Prop :=
  ∃ a b, t = a ++ b ∧ byteLength a = n

/-- Only the empty text has no bytes. -/
lemma byteLength_eq_zero_iff {t : Text} : byteLength t = 0 ↔ t = [] := by
  cases t with
  | nil => simp
  | cons c cs =>
      have hc := c.utf8Size_pos
      simp only [byteLength_cons, reduceCtorEq, iff_false]
      omega

lemma byteLength_pos {t : Text} (h : t ≠ []) : 0 < byteLength t :=
  Nat.pos_of_ne_zero fun h0 => h (byteLength_eq_zero_iff.mp h0)

/-- A character has a byte at least. -/
lemma length_le_byteLength (t : Text) : t.length ≤ byteLength t := by
  induction t with
  | nil => simp
  | cons c cs ih =>
      have hc := c.utf8Size_pos
      rw [List.length_cons, byteLength_cons]
      omega

/-- The first part of a text is known from its number of bytes. -/
lemma append_inj_of_byteLength {a b x y : Text} (h : a ++ x = b ++ y)
    (hlen : byteLength a = byteLength b) : a = b ∧ x = y := by
  have hx : some x = some y := by
    rw [← dropBytes?_append a x, ← dropBytes?_append b y, h, hlen]
  have ha : some a = some b := by
    rw [← takeBytes?_append a x, ← takeBytes?_append b y, h, hlen]
  exact ⟨Option.some.inj ha, Option.some.inj hx⟩

/-- **What is left after a cut.**  A cut succeeds where a first part of that many bytes ends. -/
theorem dropBytes?_eq_some_iff {t r : Text} {n : Nat} :
    dropBytes? t n = some r ↔ ∃ a, t = a ++ r ∧ byteLength a = n := by
  constructor
  · intro h
    induction t generalizing n with
    | nil =>
        cases n with
        | zero => exact ⟨[], by simpa [dropBytes?] using h, rfl⟩
        | succ n => simp [dropBytes?] at h
    | cons c cs ih =>
        cases n with
        | zero => exact ⟨[], by simpa [dropBytes?] using h, rfl⟩
        | succ n =>
            simp only [dropBytes?] at h
            split at h
            · next hle =>
                obtain ⟨a, rfl, ha⟩ := ih h
                refine ⟨c :: a, rfl, ?_⟩
                rw [byteLength_cons, ha]
                omega
            · simp at h
  · rintro ⟨a, rfl, rfl⟩
    exact dropBytes?_append a r

/-- **What stands before a cut.** -/
theorem takeBytes?_eq_some_iff {t p : Text} {n : Nat} :
    takeBytes? t n = some p ↔ ∃ r, t = p ++ r ∧ byteLength p = n := by
  constructor
  · intro h
    induction t generalizing n p with
    | nil =>
        cases n with
        | zero => exact ⟨[], by simpa [takeBytes?] using h, by simp_all [takeBytes?]⟩
        | succ n => simp [takeBytes?] at h
    | cons c cs ih =>
        cases n with
        | zero =>
            obtain rfl : [] = p := by simpa [takeBytes?] using h
            exact ⟨c :: cs, rfl, rfl⟩
        | succ n =>
            simp only [takeBytes?] at h
            split at h
            · next hle =>
                obtain ⟨q, hq, rfl⟩ := Option.map_eq_some_iff.mp h
                obtain ⟨r, rfl, hr⟩ := ih hq
                refine ⟨r, rfl, ?_⟩
                rw [byteLength_cons, hr]
                omega
            · simp at h
  · rintro ⟨r, rfl, rfl⟩
    exact takeBytes?_append p r

/-- **A slice is the middle one of three parts.**  It is there exactly when both offsets stand
    between characters and in order, and then its text is what stands between them. -/
theorem slice_eq_ok_iff {t p : Text} {i j : Nat} :
    slice t i j = .ok p ↔
      ∃ a b, t = a ++ p ++ b ∧ byteLength a = i ∧ byteLength a + byteLength p = j := by
  constructor
  · intro h
    unfold slice at h
    split at h
    · next hij =>
        split at h
        · next q hq =>
            obtain rfl : q = p := by simpa using h
            obtain ⟨r, hr, hp⟩ := Option.bind_eq_some_iff.mp hq
            obtain ⟨a, rfl, rfl⟩ := dropBytes?_eq_some_iff.mp hr
            obtain ⟨b, rfl, hlen⟩ := takeBytes?_eq_some_iff.mp hp
            exact ⟨a, b, by simp, rfl, by omega⟩
        · simp at h
    · simp at h
  · rintro ⟨a, b, rfl, rfl, rfl⟩
    have hsub : byteLength a + byteLength p - byteLength a = byteLength p := by omega
    rw [List.append_assoc, slice, if_pos (by omega), dropBytes?_append, hsub, Option.bind_some,
      takeBytes?_append]

lemma slice_append (a p b : Text) :
    slice (a ++ p ++ b) (byteLength a) (byteLength a + byteLength p) = .ok p :=
  slice_eq_ok_iff.mpr ⟨a, b, rfl, rfl, rfl⟩

lemma slice_prefix (a b : Text) : slice (a ++ b) 0 (byteLength a) = .ok a :=
  slice_eq_ok_iff.mpr ⟨[], b, rfl, rfl, Nat.zero_add _⟩

lemma slice_suffix (a b : Text) :
    slice (a ++ b) (byteLength a) (byteLength (a ++ b)) = .ok b :=
  slice_eq_ok_iff.mpr ⟨a, [], (List.append_nil _).symm, rfl, (byteLength_append a b).symm⟩

/-- Both ends of a slice are boundaries of the text, in order and not after its end. -/
lemma isBoundary_of_slice {t p : Text} {i j : Nat} (h : slice t i j = .ok p) :
    IsBoundary t i ∧ IsBoundary t j ∧ i ≤ j ∧ j ≤ byteLength t := by
  obtain ⟨a, b, rfl, rfl, rfl⟩ := slice_eq_ok_iff.mp h
  refine ⟨⟨a, p ++ b, by simp, rfl⟩, ⟨a ++ p, b, rfl, by simp⟩, by omega, ?_⟩
  simp only [byteLength_append]
  omega

/-- **Between two boundaries in order there is a slice**, and between no other offsets. -/
theorem exists_slice_iff {t : Text} {i j : Nat} :
    (∃ p, slice t i j = .ok p) ↔ IsBoundary t i ∧ IsBoundary t j ∧ i ≤ j := by
  constructor
  · rintro ⟨p, h⟩
    obtain ⟨hi, hj, hle, -⟩ := isBoundary_of_slice h
    exact ⟨hi, hj, hle⟩
  · rintro ⟨⟨a, x, hx, rfl⟩, ⟨b, y, hy, rfl⟩, hle⟩
    rcases List.append_eq_append_iff.mp (hx.symm.trans hy) with ⟨p, rfl, -⟩ | ⟨p, rfl, -⟩
    · exact ⟨p, slice_eq_ok_iff.mpr ⟨a, y, hy, rfl, by simp⟩⟩
    · -- the first part goes at least as far, and not further
      rw [byteLength_append] at hle
      obtain rfl : p = [] := byteLength_eq_zero_iff.mp (by omega)
      exact ⟨[], slice_eq_ok_iff.mpr ⟨b, y, by simpa using hy, by simp, by simp⟩⟩

/-- **One byte into a character** there is a boundary only if the character has no more bytes. -/
theorem isBoundary_succ_iff {past rest : Text} {c : Char} :
    IsBoundary (past ++ c :: rest) (byteLength past + 1) ↔ c.utf8Size = 1 := by
  have hc := c.utf8Size_pos
  constructor
  · rintro ⟨a, b, hsplit, hlen⟩
    rcases List.append_eq_append_iff.mp hsplit with ⟨u, rfl, hu⟩ | ⟨u, rfl, -⟩
    · rw [byteLength_append] at hlen
      cases u with
      | nil => simp at hlen
      | cons d u =>
          obtain ⟨rfl, -⟩ := List.cons.inj hu
          rw [byteLength_cons] at hlen
          omega
    · rw [byteLength_append] at hlen
      omega
  · intro hone
    exact ⟨past ++ [c], rest, by simp, by simp [hone]⟩

end Text

end MonkeyTokens
