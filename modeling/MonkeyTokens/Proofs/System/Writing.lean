import MonkeyTokens.Proofs.System.Files

/-!
# What is written can be read back

**Directories.**  Making directories only adds to a tree: whatever stood somewhere still does
(`FileTree.Extends`).  So to make them once more is to walk through them
(`FileTree.makeFrom_again`).

**Files.**  A file is written at the place that its names lead to, through links as well.  Nothing
stands there, or a file, so no way to a directory leads through it, and all ways stay as they were
(`FileTree.follow_put`).  Then the names lead to what was written (`FileTree.read_write`), unless
what stands there keeps its own bytes (`FileTree.Keeps`).
-/

namespace MonkeyTokens.FileTree

variable {tree more : FileTree} {start last place other : Place} {names : List Text} {name : Text}
  {node : FileNode} {bytes : List UInt8}

/-! ## Steps on a way -/

/-- Behind a place nothing stands if nothing stands there. -/
lemma nodeAt_ne_none_of_behind (h : tree.nodeAt (tree.behind place) ≠ none) :
    tree.nodeAt place ≠ none := by
  intro hnone
  have hbehind : tree.behind place = place := by rw [behind, hnone]
  rw [hbehind] at h
  exact h hnone

/-- A directory is behind itself. -/
lemma behind_of_directory (h : tree.nodeAt place = some .directory) : tree.behind place = place := by
  rw [behind, h]

/-- A name that something can have, unlike those that stand for no step or for a step up. -/
structure IsName (name : Text) : Prop where
  ne_nil : name ≠ []
  ne_here : name ≠ ['.']
  ne_parent : name ≠ ['.', '.']
  fits : ¬ maxName < name.byteLength

lemma IsName.turn?_eq (h : IsName name) (place : Place) : tree.turn? place name = none := by
  rw [turn?, if_neg (by simp [h.ne_nil, h.ne_here]), if_neg h.ne_parent]

/-- The first step on a way to a directory is a turn, or it leads to a directory. -/
lemma exists_step {names : List Text} (h : tree.follow start (name :: names) = .ok last)
    (hlast : tree.nodeAt last = some .directory) :
    ∃ next, tree.follow next names = .ok last ∧
      (tree.turn? start name = some next ∨
        tree.turn? start name = none ∧ ¬ maxName < name.byteLength ∧
          tree.behind (tree.child start name) = next ∧ tree.nodeAt next = some .directory) := by
  rw [follow] at h
  cases hturn : tree.turn? start name with
  | some next =>
      rw [hturn] at h
      exact ⟨next, h, .inl rfl⟩
  | none =>
      simp only [hturn] at h
      split at h
      · cases h
      next hfits =>
      split at h
      · cases h
      · next hnode => exact ⟨_, h, .inr ⟨rfl, hfits, rfl, hnode⟩⟩
      · next node hother hnode =>
          split at h
          · cases h
            exact absurd (Option.some.inj (hnode.symm.trans hlast)) hother
          · cases h

/-- A name in a directory leads to what is behind it, if anything is. -/
lemma follow_concat (hname : IsName name) (h : tree.follow start names = .ok last)
    (hlast : tree.nodeAt last = some .directory)
    (hthere : tree.nodeAt (tree.behind (tree.child last name)) ≠ none) :
    tree.follow start (names ++ [name]) = .ok (tree.behind (tree.child last name)) := by
  induction names generalizing start with
  | nil =>
      rw [follow] at h
      cases h
      rw [List.nil_append, follow, hname.turn?_eq]
      simp only [if_neg hname.fits]
      split
      · next hnone => exact absurd hnone hthere
      · rw [follow]
      · simp
  | cons first names ih =>
      obtain ⟨next, hnext, hturn | ⟨hturn, hfits, rfl, hnode⟩⟩ := exists_step h hlast
      · rw [List.cons_append, follow, hturn]
        exact ih hnext
      · rw [List.cons_append, follow, hturn]
        simp only [if_neg hfits, hnode]
        exact ih hnext

/-! ## Trees that are added to -/

/-- All that stands somewhere in the one tree stands there in the other. -/
structure Extends (tree more : FileTree) : Prop where
  workingDirectory : more.workingDirectory = tree.workingDirectory
  keeps : ∀ {place node}, tree.nodeAt place = some node → more.nodeAt place = some node

namespace Extends

lemma refl : tree.Extends tree :=
  ⟨rfl, id⟩

lemma trans {last : FileTree} (h : tree.Extends more) (h' : more.Extends last) :
    tree.Extends last :=
  ⟨h'.workingDirectory.trans h.workingDirectory, fun hnode => h'.keeps (h.keeps hnode)⟩

lemma locate_eq (h : tree.Extends more) (place : Place) : more.locate place = tree.locate place := by
  rw [locate, locate, h.workingDirectory]

lemma turn?_eq (h : tree.Extends more) (place : Place) (name : Text) :
    more.turn? place name = tree.turn? place name := by
  simp only [turn?, parent, h.workingDirectory, h.locate_eq]

lemma child_eq (h : tree.Extends more) (place : Place) (name : Text) :
    more.child place name = tree.child place name :=
  h.locate_eq _

lemma behind_eq (h : tree.Extends more) (hthere : tree.nodeAt place ≠ none) :
    more.behind place = tree.behind place := by
  obtain ⟨node, hnode⟩ := Option.ne_none_iff_exists'.mp hthere
  simp only [behind, hnode, h.keeps hnode, h.locate_eq]

end Extends

lemma workingDirectory_put (tree : FileTree) (place : Place) (node : FileNode) :
    (tree.put place node).workingDirectory = tree.workingDirectory := by
  unfold put
  split <;> rfl

lemma extends_put (h : tree.nodeAt place = none) (node : FileNode) :
    tree.Extends (tree.put place node) where
  workingDirectory := tree.workingDirectory_put place node
  keeps {other node'} hnode := by
    refine nodeAt_put_of_some ?_ hnode
    rintro rfl
    rw [h] at hnode
    cases hnode

/-! ## Making directories -/

/-- **One step** on the way of directories that are made.  It is refused, or it goes on from a
    directory that was there or is there now, and that any later walk goes through. -/
theorem makeFrom_cons_cases (tree : FileTree) (start : Place) (name : Text) (names : List Text) :
    (∃ cause, tree.makeFrom start (name :: names) = (some cause, tree)) ∨
      ∃ made next, tree.Extends made ∧
        tree.makeFrom start (name :: names) = made.makeFrom next names ∧
        ∀ later, made.Extends later →
          later.makeFrom start (name :: names) = later.makeFrom next names := by
  rw [makeFrom]
  cases hturn : tree.turn? start name with
  | some next =>
      refine .inr ⟨tree, next, .refl, rfl, fun later hlater => ?_⟩
      rw [makeFrom, hlater.turn?_eq, hturn]
  | none =>
      simp only
      by_cases hlong : maxName < name.byteLength
      · exact .inl ⟨.nameTooLong, by rw [if_pos hlong]⟩
      rw [if_neg hlong]
      cases hnode : tree.nodeAt (tree.behind (tree.child start name)) with
      | some node =>
          have hthere := nodeAt_ne_none_of_behind (by rw [hnode]; simp :
            tree.nodeAt (tree.behind (tree.child start name)) ≠ none)
          cases node with
          | directory =>
              refine .inr ⟨tree, _, .refl, rfl, fun later hlater => ?_⟩
              rw [makeFrom, hlater.turn?_eq, hturn]
              simp only [if_neg hlong, hlater.child_eq, hlater.behind_eq hthere,
                hlater.keeps hnode]
          | file _ | link _ | barred _ | fixed _ _ | input => exact .inl ⟨_, rfl⟩
      | none =>
          simp only
          by_cases hlink : tree.behind (tree.child start name) ≠ tree.child start name
          · exact .inl ⟨.exists_, by rw [if_pos hlink]⟩
          rw [if_neg hlink]
          rw [not_not.mp hlink] at hnode
          have hgoesOn : ∀ later, (tree.put (tree.child start name) .directory).Extends later →
              later.makeFrom start (name :: names) =
                later.makeFrom (tree.child start name) names := by
            intro later hlater
            have hboth := (extends_put hnode .directory).trans hlater
            have hmade := hlater.keeps (nodeAt_put_self tree (tree.child start name) .directory)
            rw [makeFrom, hboth.turn?_eq, hturn]
            simp only [if_neg hlong, hboth.child_eq, behind_of_directory hmade, hmade]
          cases tree.writing with
          | barred cause => exact .inl ⟨cause, rfl⟩
          | free | upTo _ _ => exact .inr ⟨_, _, extends_put hnode .directory, rfl, hgoesOn⟩

/-- Making directories adds to the tree. -/
lemma extends_makeFrom (tree : FileTree) (start : Place) (names : List Text) :
    tree.Extends (tree.makeFrom start names).2 := by
  induction names generalizing tree start with
  | nil => exact .refl
  | cons name names ih =>
      obtain ⟨cause, hrefused⟩ | ⟨made, next, hmade, hstep, -⟩ :=
        tree.makeFrom_cons_cases start name names
      · rw [hrefused]
        exact .refl
      · rw [hstep]
        exact hmade.trans (ih made next)

/-- **Directories that were made** are not made again: the second time ends as the first one did. -/
theorem makeFrom_again (tree : FileTree) (start : Place) (names : List Text) :
    (tree.makeFrom start names).2.makeFrom start names = tree.makeFrom start names := by
  induction names generalizing tree start with
  | nil => rfl
  | cons name names ih =>
      obtain ⟨cause, hrefused⟩ | ⟨made, next, -, hstep, hlater⟩ :=
        tree.makeFrom_cons_cases start name names
      · rw [hrefused, hrefused]
      · rw [hstep, hlater _ (made.extends_makeFrom next names)]
        exact ih made next

/-- Where names lead to a directory, none has to be made. -/
lemma makeFrom_of_follow (h : tree.follow start names = .ok last)
    (hlast : tree.nodeAt last = some .directory) : tree.makeFrom start names = (none, tree) := by
  induction names generalizing start with
  | nil => rfl
  | cons name names ih =>
      obtain ⟨next, hnext, hturn | ⟨hturn, hfits, rfl, hnode⟩⟩ := exists_step h hlast
      · rw [makeFrom, hturn]
        exact ih hnext
      · rw [makeFrom, hturn]
        simp only [if_neg hfits, hnode]
        exact ih hnext

/-! ## Writing files -/

/-- A file can be put at a place: nothing stands there, or a file. -/
def TakesFile (tree : FileTree) (place : Place) : Prop :=
  tree.nodeAt place = none ∨ ∃ old, tree.nodeAt place = some (.file old)

lemma TakesFile.behind_eq (h : tree.TakesFile place) : tree.behind place = place := by
  rcases h with hnone | ⟨old, hfile⟩
  · rw [behind, hnone]
  · rw [behind, hfile]

/-- A file that is put somewhere hides no link. -/
lemma behind_put (hroom : tree.HasRoom place) (htakes : tree.TakesFile place) (other : Place) :
    (tree.put place (.file bytes)).behind other = tree.behind other := by
  by_cases hother : other = place
  · subst hother
    rw [htakes.behind_eq, behind, nodeAt_put_self]
  · simp only [behind, nodeAt_put_of_room hroom hother, locate, workingDirectory_put]

lemma turn?_put (tree : FileTree) (place : Place) (node : FileNode) (other : Place) (name : Text) :
    (tree.put place node).turn? other name = tree.turn? other name := by
  simp only [turn?, parent, locate, workingDirectory_put]

lemma child_put (tree : FileTree) (place : Place) (node : FileNode) (other : Place) (name : Text) :
    (tree.put place node).child other name = tree.child other name := by
  simp only [child, locate, workingDirectory_put]

/-- A file is put in the place of no directory. -/
lemma directory_put (htakes : tree.TakesFile place) (h : tree.nodeAt other = some .directory) :
    (tree.put place node).nodeAt other = some .directory := by
  refine nodeAt_put_of_some ?_ h
  rintro rfl
  rcases htakes with hnone | ⟨old, hfile⟩
  · rw [hnone] at h
    cases h
  · rw [hfile] at h
    cases h

/-- **Ways to a directory** do not lead through a file that is put somewhere. -/
theorem follow_put (hroom : tree.HasRoom place) (htakes : tree.TakesFile place)
    (h : tree.follow start names = .ok last) (hlast : tree.nodeAt last = some .directory) :
    (tree.put place (.file bytes)).follow start names = .ok last := by
  induction names generalizing start with
  | nil => exact h
  | cons name names ih =>
      obtain ⟨next, hnext, hturn | ⟨hturn, hfits, rfl, hdirectory⟩⟩ := exists_step h hlast
      · rw [follow, turn?_put, hturn]
        exact ih hnext
      · rw [follow, turn?_put, hturn]
        simp only [if_neg hfits, child_put, behind_put hroom htakes,
          directory_put htakes hdirectory]
        exact ih hnext

/-- What is written to a file with a name in a directory is kept: what stands there is not one of
    the files that keep their own bytes. -/
def Keeps (tree : FileTree) (directory : List Text) (name : Text) : Prop :=
  ∀ place, tree.fileIn directory name = .ok place →
    tree.nodeAt place ≠ some .input ∧ ∀ bytes, tree.nodeAt place ≠ some (.fixed bytes none)

/-- What is written whole at a place is put there. -/
lemma eq_put_of_store {saved : FileTree} (h : tree.store place bytes = .ok saved) :
    saved = tree.put place (.file bytes) := by
  rw [store] at h
  split at h
  · cases h
    rfl
  · split at h
    · cases h
      rfl
    · cases h
  · cases h

/-- **All that writing can come to** if it is not refused: the file is put at its place, which takes
    it and has room for it. -/
theorem exists_put_of_write {directory : List Text} {saved : FileTree}
    (hkeeps : tree.Keeps directory name) (h : tree.write directory name bytes = .ok saved) :
    ∃ last, tree.follow here directory = .ok last ∧ tree.nodeAt last = some .directory ∧
      tree.TakesFile (tree.behind (tree.child last name)) ∧
      tree.HasRoom (tree.behind (tree.child last name)) ∧
      saved = tree.put (tree.behind (tree.child last name)) (.file bytes) := by
  rw [write] at h
  split at h
  · cases h
  next place hfile =>
  obtain ⟨hinput, hfixed⟩ := hkeeps place hfile
  obtain ⟨last, hlast, hdirectory, rfl⟩ : ∃ last, tree.follow here directory = .ok last ∧
      tree.nodeAt last = some .directory ∧ tree.behind (tree.child last name) = place := by
    rw [fileIn] at hfile
    split at hfile
    · cases hfile
    next last hfollow =>
    split at hfile
    · next hdirectory =>
        cases hfile
        exact ⟨last, hfollow, hdirectory, rfl⟩
    · cases hfile
  refine ⟨last, hlast, hdirectory, ?_⟩
  cases hnode : tree.nodeAt (tree.behind (tree.child last name)) with
  | none =>
      simp only [hnode] at h
      split at h
      · next hparent => exact ⟨.inl hnode, .inr hparent, eq_put_of_store h⟩
      · cases h
  | some node =>
      simp only [hnode] at h
      cases node with
      | file old => exact ⟨.inr ⟨old, hnode⟩, .inl (by rw [hnode]; simp), eq_put_of_store h⟩
      | input => exact absurd hnode hinput
      | fixed old refusal =>
          cases refusal with
          | none => exact absurd hnode (hfixed old)
          | some cause => cases h
      | directory | link _ | barred _ => cases h

/-- **What is written can be read back**, and its directory is there. -/
theorem read_write {directory : List Text} {saved : FileTree}
    (hname : IsName name) (hkeeps : tree.Keeps directory name)
    (h : tree.write directory name bytes = .ok saved) :
    saved.readNamed (directory ++ [name]) = .ok bytes ∧
      saved.makeDirectory directory = (none, saved) := by
  obtain ⟨last, hlast, hdirectory, htakes, hroom, rfl⟩ := exists_put_of_write hkeeps h
  have hway := @follow_put _ _ _ _ _ bytes hroom htakes hlast hdirectory
  have hthere := @directory_put _ _ _ (.file bytes) htakes hdirectory
  refine ⟨?_, makeFrom_of_follow hway hthere⟩
  generalize hplace : tree.behind (tree.child last name) = place at *
  have hfile := nodeAt_put_self tree place (.file bytes)
  have hlast' : (tree.put place (.file bytes)).behind
      ((tree.put place (.file bytes)).child last name) = place := by
    rw [child_put, behind_put hroom htakes, hplace]
  have hnames := follow_concat hname hway hthere (by rw [hlast', hfile]; simp)
  rw [hlast'] at hnames
  rw [readNamed, hnames]
  simp only [bytesAt, hfile]

end MonkeyTokens.FileTree
