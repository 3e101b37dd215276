import MonkeyTokens.Session.Terminal
import MonkeyTokens.Proofs.History.Restart

/-!
# What a session remembers

Between two keys a session can change its history in one way only: it offers an entry that was
accepted.  So whatever is typed, the history at the end is the one it started with, to which some
entries were offered, and everything about histories to which entries are offered holds of it.

* `Terminal.exists_offerAll_react` — one reaction of the session;
* **`Terminal.exists_offerAll_run`** — a whole session;
* **`history_contents`** — what a session remembers is the end of all that was offered: by the file
  first, and then by the session.
-/

namespace MonkeyTokens

/-! ## Sessions offer entries -/

lemma History.offerAll_append (h : History) (a b : List Text) :
    h.offerAll (a ++ b) = (h.offerAll a).offerAll b :=
  List.foldl_append

namespace Terminal

/-- **One reaction** offers the entry that was accepted, if one was. -/
lemma exists_offerAll_react (ctx : Context) (s : State) (reaction : Reaction) :
    ∃ accepted, (react ctx s reaction).2.history = s.history.offerAll accepted := by
  cases reaction with
  | accepted entry => exact ⟨[entry], rfl⟩
  | typing _ | interrupted | ended | crashed => exact ⟨[], rfl⟩

/-- Keys that are fetched together. -/
lemma exists_offerAll_readFetch (ctx : Context) (keys : Text) (s : State) :
    ∃ accepted, (readFetch ctx keys s).2.history = s.history.offerAll accepted := by
  induction keys generalizing s with
  | nil => exact ⟨[], rfl⟩
  | cons key keys ih =>
      rw [readFetch]
      split
      · next editing _ => exact ih { s with editing }
      · exact exists_offerAll_react ctx s _

/-- All keys. -/
lemma exists_offerAll_readFetches (ctx : Context) (fetches : List Text) (s : State) :
    ∃ accepted, (readFetches ctx fetches s).2.history = s.history.offerAll accepted := by
  induction fetches generalizing s with
  | nil => exact exists_offerAll_react ctx { s with editing := .empty } _
  | cons fetch fetches ih =>
      obtain ⟨first, hfirst⟩ := exists_offerAll_readFetch ctx fetch s
      rw [readFetches]
      split
      · next next heq =>
          rw [heq] at hfirst
          obtain ⟨more, hmore⟩ := ih next
          exact ⟨first ++ more, by rw [hmore, hfirst, History.offerAll_append]⟩
      · next flow next _ heq =>
          rw [heq] at hfirst
          exact ⟨first, hfirst⟩

/-- **A whole session** offers entries to the history it starts with. -/
theorem exists_offerAll_run (ctx : Context) (user : Text) (typed : List Text) (history : History)
    (con : Console) :
    ∃ accepted, (run ctx user typed history con).2.1 = history.offerAll accepted := by
  rw [run]
  split
  · exact exists_offerAll_readFetches ctx _ ⟨.empty, history, _⟩
  · exact ⟨[], rfl⟩

end Terminal

open History History.Store

/-! ## All that was offered -/

/-- **What a session remembers.**  Let a session start where the history file holds a text.
    Whatever entries are then added, the history holds the last thousand entries of what is left of
    all of them, those of the file and those that were added, without the ones that are empty or
    start with a blank character, and then with each run of equal neighbours collapsed to one.  So
    at every moment, while the file is loaded and afterwards, there are at most a thousand entries,
    none of them empty or with a blank character in front, and no two neighbours are equal; and an
    entry is reported as added exactly if it changes what would be left without a bound.  What is
    typed in a session adds entries in this way, whatever it is. -/
theorem history_contents (s : History.Store) (files : FileTree) (content : Text)
    (hread : (s.restore files).files.readNamed s.fileNames = .ok content.encode) :
    (∀ loaded, loaded <+: textEntries content → (History.empty.offerAll loaded).Tidy) ∧
      (∀ added,
        ((s.restore files).history.offerAll added).entries =
            (uncut (textEntries content ++ added)).rtake 1000 ∧
          ((s.restore files).history.offerAll added).Tidy ∧
          ∀ entry, (((s.restore files).history.offerAll added).offer entry).2 = true ↔
            uncut (textEntries content ++ added ++ [entry]) ≠
              uncut (textEntries content ++ added)) ∧
      ∀ (ctx : Context) (user : Text) (typed : List Text) (con : Console),
        ∃ added, (Terminal.run ctx user typed (s.restore files).history con).2.1 =
          (s.restore files).history.offerAll added := by
  have hloaded : (s.restore files).history.Remembers (textEntries content) := by
    have hfile := remembers_load (decode content.encode)
    rwa [(decode_encode content).1, ← history_restore hread] at hfile
  refine ⟨fun loaded _ => (remembers_empty.offerAll loaded).tidy, fun added => ?_,
    fun ctx user typed con => Terminal.exists_offerAll_run ctx user typed _ con⟩
  have hadded := hloaded.offerAll added
  exact ⟨hadded, hadded.tidy, hadded.offer_eq_true_iff⟩

/-- A file with a blank line and an entry twice, and then the same entry once more, with a hidden
    one before it.  It would not be reported as added. -/
theorem history_contents_seam :
    (Store.plain.restore (filesWith "#V2\na\n\nb\nb\n".toList)).files.readNamed
        Store.plain.fileNames = .ok (Text.encode "#V2\na\n\nb\nb\n".toList) ∧
      ((Store.plain.restore (filesWith "#V2\na\n\nb\nb\n".toList)).history.offerAll
        [" hidden".toList, "b".toList, "a".toList]).entries =
          ["a".toList, "b".toList, "a".toList] ∧
      (((Store.plain.restore (filesWith "#V2\na\n\nb\nb\n".toList)).history.offerAll
        [" hidden".toList]).offer "b".toList).2 = false := by
  have hread : (Store.plain.restore (filesWith "#V2\na\n\nb\nb\n".toList)).files.readNamed
      Store.plain.fileNames = .ok (Text.encode "#V2\na\n\nb\nb\n".toList) := by
    rw [files_restore_filesWith, read_filesWith]
  obtain ⟨-, hcontents, -⟩ := history_contents Store.plain _ "#V2\na\n\nb\nb\n".toList hread
  have hleft : (uncut (textEntries "#V2\na\n\nb\nb\n".toList ++
      [" hidden".toList, "b".toList, "a".toList])).rtake 1000 =
        ["a".toList, "b".toList, "a".toList] := by decide +kernel
  have hsame : uncut (textEntries "#V2\na\n\nb\nb\n".toList ++ [" hidden".toList] ++ ["b".toList]) =
      uncut (textEntries "#V2\na\n\nb\nb\n".toList ++ [" hidden".toList]) := by decide +kernel
  refine ⟨hread, (hcontents _).1.trans hleft, ?_⟩
  have hreport := (hcontents [" hidden".toList]).2.2 "b".toList
  exact Bool.eq_false_iff.mpr fun htaken => hreport.mp htaken hsame

end MonkeyTokens
