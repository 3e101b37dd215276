import MonkeyTokens.History.Basic
import Mathlib.Data.List.Destutter
import Mathlib.Data.List.DropRight

/-!
# What a history holds

A history takes entries one at a time, refuses some, and lets the oldest go when there are too many.
What it holds in the end can be said without any of that, of all entries that were offered at once.

* `History.Worthy` — the entries that can be remembered at all;
* `History.uncut` — what a history without a bound would hold: the worthy entries, and of equal
  neighbours only one; `History.uncut_concat` — how one more entry changes it;
* `History.Remembers` — a history holds the end of that, as far as it has room;
* `History.Remembers.offer` — one entry keeps this, and `History.Remembers.offerAll` — so do many;
* `History.Tidy` — what every such history is like, and `History.Tidy.remembers` — a tidy history
  would come out again if its own entries were offered to an empty one.
-/

namespace MonkeyTokens.History

/-- An entry that can be remembered: it starts with a character that is not blank. -/
def Worthy (entry : Text) : Prop :=
  ∃ c rest, entry = c :: rest ∧ Text.isBlank c = false

lemma isHidden_eq_false_iff {entry : Text} : isHidden entry = false ↔ Worthy entry := by
  cases entry with
  | nil => simp [isHidden, Worthy]
  | cons c rest => simp [isHidden, Worthy]

instance (entry : Text) : Decidable (Worthy entry) :=
  decidable_of_iff _ isHidden_eq_false_iff

/-- What is left of the entries that were offered if there is room for everything: the worthy ones,
    each run of equal neighbours among them collapsed to one. -/
def uncut (offered : List Text) : List Text :=
  (offered.filter fun entry => Worthy entry).destutter (· ≠ ·)

/-! ## One entry more -/

/-- One element more is dropped if it is the same as the last that was kept. -/
lemma destutter'_concat {α : Type} [DecidableEq α] (first : α) (l : List α) (a : α) :
    (l ++ [a]).destutter' (· ≠ ·) first =
      if (l.destutter' (· ≠ ·) first).getLast? = some a then l.destutter' (· ≠ ·) first
      else l.destutter' (· ≠ ·) first ++ [a] := by
  induction l generalizing first with
  | nil =>
      by_cases h : first = a
      · simp [h]
      · simp [h]
  | cons b l ih =>
      by_cases h : first = b
      · have hsame : ¬ first ≠ b := not_not.mpr h
        rw [List.cons_append, List.destutter'_cons_neg _ hsame, List.destutter'_cons_neg _ hsame]
        exact ih first
      · obtain ⟨c, more, hkept⟩ :=
          List.exists_cons_of_ne_nil (l.destutter'_ne_nil (· ≠ ·) (a := b))
        rw [List.cons_append, List.destutter'_cons_pos _ h, List.destutter'_cons_pos _ h, ih b,
          hkept, List.getLast?_cons_cons]
        split <;> rfl

lemma destutter_concat {α : Type} [DecidableEq α] (l : List α) (a : α) :
    (l ++ [a]).destutter (· ≠ ·) =
      if (l.destutter (· ≠ ·)).getLast? = some a then l.destutter (· ≠ ·)
      else l.destutter (· ≠ ·) ++ [a] := by
  cases l with
  | nil => simp
  | cons b l =>
      rw [List.cons_append, List.destutter_cons', List.destutter_cons']
      exact destutter'_concat b l a

/-- **One entry more** changes the uncut history exactly if it is worthy and not what came last. -/
lemma uncut_concat (offered : List Text) (entry : Text) :
    uncut (offered ++ [entry]) =
      if Worthy entry ∧ (uncut offered).getLast? ≠ some entry then uncut offered ++ [entry]
      else uncut offered := by
  by_cases hworthy : Worthy entry
  · have hkept : [entry].filter (fun entry => Worthy entry) = [entry] := by simp [hworthy]
    simp only [hworthy, true_and, uncut, List.filter_append, hkept, destutter_concat]
    rw [ite_not]
  · have hdropped : [entry].filter (fun entry => Worthy entry) = [] := by simp [hworthy]
    simp only [hworthy, false_and, if_false, uncut, List.filter_append, hdropped, List.append_nil]

/-! ## What is remembered -/

/-- The history holds the end of what was offered, as far as it has room. -/
def Remembers (h : History) (offered : List Text) : Prop :=
  h.entries = (uncut offered).rtake maxEntries

lemma remembers_empty : empty.Remembers [] := rfl

/-- The last of the last few is the last. -/
lemma getLast?_rtake {α : Type} {n : Nat} (hn : 0 < n) (l : List α) :
    (l.rtake n).getLast? = l.getLast? := by
  rw [List.rtake, List.getLast?_drop]
  split
  · have hnil : l = [] := List.eq_nil_of_length_eq_zero (by omega)
    rw [hnil, List.getLast?_nil]
  · rfl

/-- With one more element, the last few depend on the last few before. -/
lemma rtake_rtake_concat {α : Type} (l : List α) (a : α) (n : Nat) :
    (l.rtake n ++ [a]).rtake n = (l ++ [a]).rtake n := by
  have happend : l.rtake n ++ [a] = (l ++ [a]).drop (l.length - n) :=
    (List.drop_append_of_le_length (Nat.sub_le _ _)).symm
  rw [happend, List.rtake, List.drop_drop, List.rtake]
  congr 1
  simp only [List.length_drop, List.length_append, List.length_singleton]
  omega

variable {h : History} {offered : List Text}

/-- An entry is refused if it is not worthy or is what came last. -/
lemma Remembers.refuses_eq_false_iff (hr : h.Remembers offered) (entry : Text) :
    h.refuses entry = false ↔ Worthy entry ∧ (uncut offered).getLast? ≠ some entry := by
  have hlast : h.entries.getLast? = (uncut offered).getLast? := by
    rw [hr, getLast?_rtake (by decide)]
  rw [refuses, hlast, Bool.or_eq_false_iff, isHidden_eq_false_iff, decide_eq_false_iff_not]

/-- A history says that it took an entry exactly if that changes the uncut history. -/
lemma Remembers.offer_eq_true_iff (hr : h.Remembers offered) (entry : Text) :
    (h.offer entry).2 = true ↔ uncut (offered ++ [entry]) ≠ uncut offered := by
  have htaken : (h.offer entry).2 = true ↔ h.refuses entry = false := by
    rw [offer]
    split <;> simp_all
  rw [htaken, hr.refuses_eq_false_iff, uncut_concat]
  constructor
  · intro hnew
    rw [if_pos hnew]
    simp
  · intro hne
    by_contra hold
    exact hne (if_neg hold)

/-- **One entry** keeps a history in step with what was offered. -/
lemma Remembers.offer (hr : h.Remembers offered) (entry : Text) :
    (h.offer entry).1.Remembers (offered ++ [entry]) := by
  have hiff := hr.refuses_eq_false_iff entry
  rw [Remembers, uncut_concat, History.offer]
  by_cases hnew : Worthy entry ∧ (uncut offered).getLast? ≠ some entry
  · rw [if_pos hnew, if_neg (by simp [hiff.mpr hnew]), ← rtake_rtake_concat, ← hr, List.rtake,
      List.length_append, List.length_singleton]
  · have hrefused : h.refuses entry = true := by
      rw [← Bool.not_eq_false, hiff]
      exact hnew
    rw [if_neg hnew, if_pos hrefused]
    exact hr

/-- **Many entries** keep it in step too. -/
lemma Remembers.offerAll (hr : h.Remembers offered) (entries : List Text) :
    (h.offerAll entries).Remembers (offered ++ entries) := by
  induction entries generalizing h offered with
  | nil => simpa [History.offerAll] using hr
  | cons entry entries ih =>
      have hnext := ih (hr.offer entry)
      rw [List.append_assoc, List.singleton_append] at hnext
      exact hnext

/-! ## What every history is like -/

/-- There is room for the entries, all of them are worthy, and no two neighbours are equal. -/
structure Tidy (h : History) : Prop where
  length_le : h.entries.length ≤ maxEntries
  worthy : ∀ entry ∈ h.entries, Worthy entry
  distinct : h.entries.IsChain (· ≠ ·)

lemma Remembers.tidy (hr : h.Remembers offered) : h.Tidy where
  length_le := by
    rw [hr, List.rtake, List.length_drop]
    omega
  worthy := by
    intro entry hentry
    rw [hr] at hentry
    have huncut : entry ∈ uncut offered := List.mem_of_mem_drop hentry
    have hfiltered := (List.destutter_sublist (· ≠ ·) _).subset huncut
    simpa using List.of_mem_filter hfiltered
  distinct := by
    rw [hr]
    exact (List.isChain_destutter (· ≠ ·) _).drop _

/-- **A tidy history comes out again** if its own entries are offered to an empty one: none of them
    is refused. -/
lemma Tidy.remembers (ht : h.Tidy) : h.Remembers h.entries := by
  have hworthy : h.entries.filter (fun entry => Worthy entry) = h.entries :=
    List.filter_eq_self.mpr fun entry hentry => by simpa using ht.worthy entry hentry
  have hlength : h.entries.length - maxEntries = 0 := Nat.sub_eq_zero_of_le ht.length_le
  rw [Remembers, uncut, hworthy, List.destutter_of_isChain _ _ ht.distinct, List.rtake, hlength,
    List.drop_zero]

lemma Tidy.entries_offerAll (ht : h.Tidy) : (empty.offerAll h.entries).entries = h.entries := by
  rw [remembers_empty.offerAll h.entries, List.nil_append, ← ht.remembers]

/-! ## What is unsaved -/

/-- Entries leave a saved history as it was, or make it unsaved. -/
lemma offerAll_eq_self (hsaved : (h.offerAll offered).unsaved = false) :
    h.offerAll offered = h := by
  induction offered generalizing h with
  | nil => rfl
  | cons entry offered ih =>
      have hstep : h.offerAll (entry :: offered) = (h.offer entry).1.offerAll offered := rfl
      rw [hstep] at hsaved ⊢
      have hrest := ih hsaved
      rw [hrest] at hsaved ⊢
      rw [offer] at hsaved ⊢
      split at hsaved
      · next hrefused => rw [if_pos hrefused]
      · cases hsaved

end MonkeyTokens.History
