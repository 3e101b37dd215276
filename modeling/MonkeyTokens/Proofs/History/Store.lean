import MonkeyTokens.History.Store
import MonkeyTokens.Proofs.System.Writing

/-!
# The history at a start

A start makes the directory of the history and loads the file.  What goes wrong is logged for
debugging only.

* `History.Store.exists_opened` — a start is what comes after the directory was made, or could not
  be;
* `History.Store.quiet_restore` — the program itself has nothing grave to say about it;
* `History.Store.restore_again` — a second start finds what the first one found;
* `History.Store.restore_withInput`, `History.Store.save_withInput` — neither the start nor the end
  depends on the input of the program, unless the history file is that input.
-/

namespace MonkeyTokens.History.Store

variable {s : Store} {files : FileTree}

lemma files_opened (s : Store) (files : FileTree) (logged : List Log.Event) :
    (s.opened files logged).files = files := by
  unfold opened
  split <;> rfl

/-- Beyond the directory nothing matters to a start. -/
lemma exists_opened (s : Store) (files : FileTree) :
    ∃ logged, (∀ event ∈ logged, event.level = .debug) ∧
      s.restore files = s.opened (files.makeDirectory s.directoryNames).2 logged := by
  unfold restore
  split
  · exact ⟨[], by simp, by simp [*]⟩
  · next cause made hmade =>
      refine ⟨[s.noDirectory (.os cause)], ?_, by rw [hmade]⟩
      intro event hevent
      rw [List.mem_singleton.mp hevent]
      rfl

lemma files_restore (s : Store) (files : FileTree) :
    (s.restore files).files = (files.makeDirectory s.directoryNames).2 := by
  obtain ⟨logged, -, hopened⟩ := s.exists_opened files
  rw [hopened, files_opened]

/-- What a start logs is for debugging, or it comes from the line editor. -/
theorem quiet_restore {event : Log.Event} (h : event ∈ (s.restore files).events) :
    event.level = .debug ∨ event.target = Log.Target.lineEditor := by
  obtain ⟨logged, hlogged, hopened⟩ := s.exists_opened files
  rw [hopened, opened] at h
  split at h
  · rcases List.mem_append.mp h with hfirst | hlast
    · exact .inl (hlogged event hfirst)
    · obtain rfl := List.mem_singleton.mp hlast
      exact .inl rfl
  · simp only [List.mem_append, List.mem_map] at h
    rcases h with (hfirst | ⟨line, -, rfl⟩) | hlast
    · exact .inl (hlogged event hfirst)
    · exact .inr rfl
    · split at hlast
      · obtain rfl := List.mem_singleton.mp hlast
        exact .inl rfl
      · cases hlast

/-- **A second start** finds what the first one found. -/
theorem restore_again (s : Store) (files : FileTree) :
    s.restore (s.restore files).files = s.restore files := by
  have hagain : (files.makeDirectory s.directoryNames).2.makeDirectory s.directoryNames =
      files.makeDirectory s.directoryNames := FileTree.makeFrom_again files _ _
  rw [files_restore, restore, restore, hagain]

/-- What can be read is loaded. -/
lemma history_restore {bytes : List UInt8}
    (h : (s.restore files).files.readNamed s.fileNames = .ok bytes) :
    (s.restore files).history = load (decode bytes) := by
  obtain ⟨logged, -, hopened⟩ := s.exists_opened files
  rw [hopened, files_opened] at h
  rw [hopened]
  simp only [opened, h]

/-! ## The input of the program -/

/-- **A start** does not depend on the input, unless the history file is the input. -/
theorem restore_withInput (h : ¬ (s.restore files).files.NamesInput s.fileNames)
    (bytes : List UInt8) :
    s.restore (files.withInput bytes) =
      { s.restore files with files := (s.restore files).files.withInput bytes } := by
  rw [files_restore] at h
  have hmade : (files.withInput bytes).makeDirectory s.directoryNames =
      ((files.makeDirectory s.directoryNames).1,
        (files.makeDirectory s.directoryNames).2.withInput bytes) :=
    FileTree.makeFrom_withInput files bytes _ _
  have hopened : ∀ logged, s.opened ((files.makeDirectory s.directoryNames).2.withInput bytes) logged =
      { s.opened (files.makeDirectory s.directoryNames).2 logged with
        files := (files.makeDirectory s.directoryNames).2.withInput bytes } := by
    intro logged
    rw [opened, opened, FileTree.readNamed_withInput h]
    split <;> rfl
  rw [files_restore, restore, hmade, restore]
  generalize files.makeDirectory s.directoryNames = made at hopened
  obtain ⟨refused, made⟩ := made
  cases refused with
  | none => exact hopened _
  | some cause => exact hopened _

/-- Whether the history can be saved does not depend on the input. -/
theorem save_withInput (s : Store) (h : History) (files : FileTree) (input : List UInt8) :
    s.save h (files.withInput input) =
      match s.save h files with
      | .ok saved => .ok (saved.withInput input)
      | .error refused => .error ⟨refused.cause, refused.files.withInput input⟩ := by
  rw [save, save]
  split
  · exact FileTree.write_withInput files input _ _ _
  · rfl

end MonkeyTokens.History.Store
