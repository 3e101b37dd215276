import MonkeyTokens.Proofs.History.File
import MonkeyTokens.Proofs.History.Store
import MonkeyTokens.Proofs.System.Writing

/-!
# A history survives a restart

What a session remembers is what the next one starts with.  There are two ways to get there.  If
something was added, the file is written anew, and it tells exactly the entries that were
remembered, none of which is refused.  If nothing was added, nothing is written, and the same file
is loaded again.

* `History.Store.exists_remembers` — a history that was restored is tidy, like any other;
* **`history_survives_restart`** — what was saved is restored, and saving it again changes nothing.

The history file may be reached through links.  It is not meant to be one of the files that keep
their own bytes: a history that is saved to the file that is always empty is lost.
-/

namespace MonkeyTokens.History

namespace Store

/-- **Every history that is restored** comes from entries that were offered to an empty one. -/
lemma exists_remembers (s : Store) (files : FileTree) :
    ∃ offered, (s.restore files).history.Remembers offered := by
  obtain ⟨logged, -, hopened⟩ := s.exists_opened files
  rw [hopened, opened]
  split
  · exact ⟨[], remembers_empty⟩
  · next bytes _ => exact ⟨(decode bytes).entries, remembers_load (decode bytes)⟩

lemma isName_fileName : FileTree.IsName fileName :=
  ⟨by decide, by decide, by decide, by decide⟩

end Store

open Store

/-- **A history survives a restart.**  Let a session start on any files, remember entries, and save
    its history at the end, without any entry that ends in a carriage return.  Then the next session
    starts with exactly these entries, and has nothing to save: it leaves the files as they are.

    The history file may stand anywhere, behind links too, but not where a file keeps its own
    bytes. -/
theorem history_survives_restart (s : Store) (files saved : FileTree) (added : List Text)
    (hplace : (s.restore files).files.Keeps s.directoryNames fileName)
    (hsave : s.save ((s.restore files).history.offerAll added) (s.restore files).files = .ok saved)
    (hending : ∀ entry ∈ ((s.restore files).history.offerAll added).entries,
      entry.getLast? ≠ some '\r') :
    (s.restore saved).history = ⟨((s.restore files).history.offerAll added).entries, false⟩ ∧
      (s.restore saved).files = saved ∧
      s.save (s.restore saved).history (s.restore saved).files = .ok saved := by
  obtain ⟨offered, hremembers⟩ := exists_remembers s files
  have htidy : ((s.restore files).history.offerAll added).Tidy := (hremembers.offerAll added).tidy
  suffices hrestored :
      (s.restore saved).history = ⟨((s.restore files).history.offerAll added).entries, false⟩ ∧
        (s.restore saved).files = saved by
    obtain ⟨hhistory, hfiles⟩ := hrestored
    refine ⟨hhistory, hfiles, ?_⟩
    rw [hhistory, hfiles]
    rfl
  rw [save] at hsave
  by_cases hunsaved : ((s.restore files).history.offerAll added).unsaved = true
  · rw [if_pos hunsaved] at hsave
    obtain ⟨hread, hdirectory⟩ := FileTree.read_write isName_fileName hplace hsave
    have hfiles : (s.restore saved).files = saved := by rw [files_restore, hdirectory]
    refine ⟨?_, hfiles⟩
    rw [← load_format htidy hending]
    exact history_restore (by rw [hfiles]; exact hread)
  · -- nothing was taken, so that this history is the one that was loaded
    have hsaved : ((s.restore files).history.offerAll added).unsaved = false := by
      simpa using hunsaved
    rw [if_neg hunsaved] at hsave
    cases hsave
    rw [restore_again]
    refine ⟨?_, rfl⟩
    have hsame := offerAll_eq_self hsaved
    rw [hsame] at hsaved ⊢
    rw [← hsaved]

/-- A data directory in the working directory. -/
def Store.plain : Store :=
  ⟨"data".toList, ["data".toList]⟩

/-- The files of a system in which there is nothing but a history. -/
def Store.filesWith (content : Text) : FileTree where
  entries := [(Store.plain.fileNames, .file content.encode)]
  input := []

lemma Store.read_filesWith (content : Text) :
    (filesWith content).readNamed plain.fileNames = .ok content.encode := rfl

lemma Store.files_restore_filesWith (content : Text) :
    (plain.restore (filesWith content)).files = filesWith content := by
  rw [files_restore]
  rfl

/-- There any history can be saved. -/
lemma Store.exists_save_filesWith (h : History) (content : Text) :
    ∃ saved, plain.save h (plain.restore (filesWith content)).files = .ok saved := by
  rw [files_restore_filesWith, save]
  split
  · exact ⟨(filesWith content).put ⟨true, plain.fileNames⟩ (.file (format h.entries).encode), rfl⟩
  · exact ⟨_, rfl⟩

/-- What is saved there is kept. -/
lemma Store.keeps_filesWith (content : Text) :
    (filesWith content).Keeps plain.directoryNames fileName := by
  intro place hplace
  have hfile : (filesWith content).fileIn plain.directoryNames fileName =
      .ok ⟨true, plain.fileNames⟩ := rfl
  have hnode : (filesWith content).nodeAt ⟨true, plain.fileNames⟩ =
      some (.file content.encode) := rfl
  obtain rfl := Except.ok.inj (hfile.symm.trans hplace)
  simp [hnode]

/-- The file has no version line, and a backslash before an `n` in its entry.  The entries that are
    added look like the version line, take two lines, and are a backslash, twice. -/
theorem history_survives_restart_escapes :
    ∃ saved, Store.plain.save
        ((Store.plain.restore (filesWith "old\\n\n\n hidden\nold\\n\n".toList)).history.offerAll
          ["#V2".toList, "(\n)".toList, "\\".toList, "\\".toList])
        (Store.plain.restore (filesWith "old\\n\n\n hidden\nold\\n\n".toList)).files = .ok saved ∧
      (Store.plain.restore saved).history =
        ⟨["old\\n".toList, "#V2".toList, "(\n)".toList, "\\".toList], false⟩ := by
  have hhistory :
      (Store.plain.restore (filesWith "old\\n\n\n hidden\nold\\n\n".toList)).history.offerAll
        ["#V2".toList, "(\n)".toList, "\\".toList, "\\".toList] =
      ⟨["old\\n".toList, "#V2".toList, "(\n)".toList, "\\".toList], true⟩ := by decide +kernel
  obtain ⟨saved, hsave⟩ := exists_save_filesWith
    ((Store.plain.restore (filesWith "old\\n\n\n hidden\nold\\n\n".toList)).history.offerAll
      ["#V2".toList, "(\n)".toList, "\\".toList, "\\".toList])
    "old\\n\n\n hidden\nold\\n\n".toList
  have hplace := keeps_filesWith "old\\n\n\n hidden\nold\\n\n".toList
  rw [← files_restore_filesWith] at hplace
  obtain ⟨hrestored, -⟩ := history_survives_restart Store.plain _ saved _ hplace hsave
    (by rw [hhistory]; decide)
  rw [hhistory] at hrestored
  exact ⟨saved, hsave, hrestored⟩

end MonkeyTokens.History
