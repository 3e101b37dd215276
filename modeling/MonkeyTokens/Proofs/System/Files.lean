import MonkeyTokens.System.Files
import Mathlib.Data.List.Infix

/-!
# Ways through the files

Where a path leads depends on what stands at the places on its way and on nothing else.  So the
input of the program, which is a file of every system, matters to those only who read that file.
And what is put somewhere leaves everything else where it was, and only makes the way there a way of
directories.

* `FileTree.lookup_insert_self`, `FileTree.lookup_insert_of_ne` — what names lead to in a list into
  which something was put;
* `FileTree.nodeAt_put_self`, `FileTree.nodeAt_put_of_some` — the same of places;
* `FileTree.HasRoom`, **`FileTree.nodeAt_put_of_room`** — where something stands already, or its
  directory does, nothing is put but the thing itself;
* **`FileTree.readText_withInput`** — reading does not depend on the input, unless it is what is
  read; `FileTree.makeFrom_withInput`, `FileTree.write_withInput` — neither does writing.
-/

namespace MonkeyTokens.FileTree

variable {tree : FileTree} {entries rest : List (List Text × FileNode)} {names way : List Text}
  {node : FileNode} {place other : Place}

/-! ## Lists into which something is put -/

/-- What is put somewhere stands there. -/
lemma lookup_insert_self (entries rest : List (List Text × FileNode)) (names : List Text)
    (node : FileNode) : lookup (insert entries names node ++ rest) names = some node := by
  have hold : (entries.filter fun entry => entry.1 ≠ names).find?
      (fun entry => entry.1 = names) = none := by simp [List.find?_eq_none]
  rw [lookup, insert, List.append_assoc, List.find?_append, hold]
  simp

/-- What has an entry of its own elsewhere keeps it. -/
lemma find?_insert_of_ne (hne : way ≠ names) :
    (insert entries names node ++ rest).find? (fun entry => entry.1 = way) =
      (entries ++ rest).find? fun entry => entry.1 = way := by
  have hnew : [(names, node)].find? (fun entry => entry.1 = way) = none := by simp [hne.symm]
  have hold : (entries.filter fun entry => entry.1 ≠ names).find? (fun entry => entry.1 = way) =
      entries.find? fun entry => entry.1 = way := by
    rw [List.find?_filter]
    congr 1
    funext entry
    by_cases hentry : entry.1 = way
    · simp [hentry, hne]
    · simp [hentry]
  rw [insert, List.find?_append, List.find?_append, List.find?_append, hnew, hold, Option.or_none]

/-- Something stands below a place if something did, or if the place is on the way to what is put
    into the list: what is written over stands there again. -/
lemma any_below_insert_iff :
    (insert entries names node ++ rest).any (fun entry => way.isPrefixOf entry.1) = true ↔
      (entries ++ rest).any (fun entry => way.isPrefixOf entry.1) = true ∨ way <+: names := by
  simp only [insert, List.any_append, List.any_filter, List.any_cons, List.any_nil, Bool.or_false,
    Bool.or_eq_true, List.any_eq_true, Bool.and_eq_true, decide_eq_true_eq,
    List.isPrefixOf_iff_prefix]
  constructor
  · rintro ((⟨entry, hmem, -, hbefore⟩ | hbefore) | hrest)
    · exact .inl (.inl ⟨entry, hmem, hbefore⟩)
    · exact .inr hbefore
    · exact .inl (.inr hrest)
  · rintro ((⟨entry, hmem, hbefore⟩ | hrest) | hbefore)
    · by_cases hentry : entry.1 = names
      · exact .inl (.inr (hentry ▸ hbefore))
      · exact .inl (.inl ⟨entry, hmem, hentry, hbefore⟩)
    · exact .inr hrest
    · exact .inl (.inr hbefore)

/-- Everything else stands where it stood; only on the way to what is put somewhere there are
    directories now. -/
lemma lookup_insert_of_ne (hne : way ≠ names) :
    lookup (insert entries names node ++ rest) way =
      if lookup (entries ++ rest) way = none ∧ way <+: names then some .directory
      else lookup (entries ++ rest) way := by
  rw [lookup, lookup, find?_insert_of_ne hne]
  cases (entries ++ rest).find? fun entry => entry.1 = way with
  | some entry => simp
  | none =>
      simp only [any_below_insert_iff, ← or_assoc]
      by_cases hthere : way = [] ∨ (entries ++ rest).any (fun entry => way.isPrefixOf entry.1) = true
      · rw [if_pos (.inl hthere), if_pos hthere, if_neg (by simp)]
      · rw [if_neg hthere]
        by_cases hway : way <+: names
        · rw [if_pos (.inr hway), if_pos ⟨rfl, hway⟩]
        · rw [if_neg (not_or.mpr ⟨hthere, hway⟩), if_neg fun both => hway both.2]

/-- Above what stands somewhere, something stands too. -/
lemma lookup_ne_none_of_prefix (h : lookup entries names ≠ none) (hway : way <+: names) :
    lookup entries way ≠ none := by
  have hbelow : way = [] ∨ entries.any (fun entry => way.isPrefixOf entry.1) = true := by
    rw [lookup] at h
    split at h
    · next entry hfind =>
        have hhere : entry.1 = names := by simpa using List.find?_some hfind
        exact .inr (List.any_eq_true.mpr ⟨entry, List.mem_of_find?_eq_some hfind, by
          rwa [List.isPrefixOf_iff_prefix, hhere]⟩)
    · split at h
      · next hthere =>
          rcases hthere with rfl | hany
          · exact .inl (List.prefix_nil.mp hway)
          · obtain ⟨entry, hmem, hbefore⟩ := List.any_eq_true.mp hany
            rw [List.isPrefixOf_iff_prefix] at hbefore
            exact .inr (List.any_eq_true.mpr ⟨entry, hmem, by
              rw [List.isPrefixOf_iff_prefix]
              exact hway.trans hbefore⟩)
      · exact absurd rfl h
  rw [lookup]
  split
  · simp
  · rw [if_pos hbelow]
    simp

/-! ## Places at which something is put -/

/-- What stands in a region is a list into which things are put, and a rest. -/
lemma exists_region (tree : FileTree) (inside : Bool) :
    ∃ own rest, tree.region inside = own ++ rest ∧ ∀ names node,
      (tree.put ⟨inside, names⟩ node).region inside = insert own names node ++ rest := by
  cases inside with
  | true => exact ⟨tree.entries, [], by simp [region], by simp [region, put, set]⟩
  | false =>
      exact ⟨tree.elsewhere, system ++ [(tree.workingDirectory, .directory)], by simp [region],
        by simp [region, put]⟩

/-- What is put at a place stands there. -/
lemma nodeAt_put_self (tree : FileTree) (place : Place) (node : FileNode) :
    (tree.put place node).nodeAt place = some node := by
  obtain ⟨own, rest, -, hput⟩ := tree.exists_region place.inside
  rw [nodeAt, hput]
  exact lookup_insert_self own rest place.names node

/-- At another place stands what stood there, or a directory on the way to what is put into the
    tree. -/
lemma nodeAt_put_of_ne (hne : other ≠ place) :
    (tree.put place node).nodeAt other =
      if tree.nodeAt other = none ∧ other.inside = place.inside ∧ other.names <+: place.names then
        some .directory
      else tree.nodeAt other := by
  obtain ⟨inside, names⟩ := place
  obtain ⟨inside', way⟩ := other
  by_cases hregion : inside' = inside
  · subst hregion
    have hnames : way ≠ names := by simpa using hne
    obtain ⟨own, rest, hown, hput⟩ := tree.exists_region inside'
    rw [nodeAt, nodeAt, hput, hown, lookup_insert_of_ne hnames]
    simp only [true_and]
  · rw [if_neg fun all => hregion all.2.1]
    cases inside <;> cases inside' <;> first | exact absurd rfl hregion | rfl

/-- What stood at another place still does. -/
lemma nodeAt_put_of_some {node' : FileNode} (hne : other ≠ place)
    (h : tree.nodeAt other = some node') : (tree.put place node).nodeAt other = some node' := by
  rw [nodeAt_put_of_ne hne, h, if_neg (by simp)]

/-- Something stands at a place, or its directory does. -/
def HasRoom (tree : FileTree) (place : Place) : Prop :=
  tree.nodeAt place ≠ none ∨ tree.nodeAt (tree.parent place) = some .directory

/-- **Where there is room** only the place itself changes when something is put there. -/
theorem nodeAt_put_of_room (hroom : tree.HasRoom place) (hne : other ≠ place) :
    (tree.put place node).nodeAt other = tree.nodeAt other := by
  rw [nodeAt_put_of_ne hne]
  split
  · next hway =>
      obtain ⟨hnone, hinside, hbefore⟩ := hway
      have hnames : other.names ≠ place.names := fun hnames => hne (by
        cases other
        cases place
        simp_all)
      -- what stands above the place stands already, so the other place is not one of those
      have habove : tree.nodeAt other ≠ none := by
        rcases hroom with hthere | hparent
        · rw [nodeAt, hinside]
          exact lookup_ne_none_of_prefix hthere hbefore
        · obtain ⟨last, hlast⟩ : ∃ last, place.names.getLast? = some last := by
            cases hcase : place.names.getLast? with
            | some last => exact ⟨last, rfl⟩
            | none =>
                rw [List.getLast?_eq_none_iff] at hcase
                rw [hcase, List.prefix_nil] at hbefore
                exact absurd (hbefore.trans hcase.symm) hnames
          have hne' : place.names ≠ [] := by
            rintro hnil
            simp [hnil] at hlast
          have hup : tree.parent place = { place with names := place.names.dropLast } := by
            rw [parent, if_neg (by simp [hne'])]
          rw [hup] at hparent
          have hbefore' : other.names <+: place.names.dropLast := by
            rw [← List.dropLast_append_getLast? last hlast] at hbefore hnames
            exact (List.prefix_concat_iff.mp hbefore).resolve_left hnames
          rw [nodeAt, hinside]
          exact lookup_ne_none_of_prefix (by rw [nodeAt] at hparent; simp [hparent]) hbefore'
      exact absurd hnone habove
  · rfl

/-! ## The input -/

/-- The same files for a program with other input. -/
def withInput (tree : FileTree) (bytes : List UInt8) : FileTree :=
  { tree with input := bytes }

/-- Where names lead does not depend on the input. -/
lemma follow_withInput (tree : FileTree) (bytes : List UInt8) (place : Place)
    (names : List Text) :
    (tree.withInput bytes).follow place names = tree.follow place names := by
  induction names generalizing place with
  | nil => rfl
  | cons name more ih =>
      simp only [follow, ih]
      rfl

/-- The place of a path does not depend on the input. -/
lemma resolve_withInput (tree : FileTree) (bytes : List UInt8) (path : Text) :
    (tree.withInput bytes).resolve path = tree.resolve path := by
  simp only [resolve, follow_withInput]
  rfl

/-- What can be read at a place does not depend on the input, unless it stands there. -/
lemma bytesAt_withInput (h : tree.nodeAt place ≠ some .input) (bytes : List UInt8) :
    (tree.withInput bytes).bytesAt place = tree.bytesAt place := by
  have hnode : (tree.withInput bytes).nodeAt place = tree.nodeAt place := rfl
  rw [bytesAt, bytesAt, hnode]
  cases hat : tree.nodeAt place with
  | none => rfl
  | some node =>
      cases node with
      | input => exact absurd hat h
      | file _ | directory | link _ | barred _ | fixed _ _ => rfl

/-- The path leads to the input of the program. -/
def ReadsInput (tree : FileTree) (path : Text) : Prop :=
  (tree.resolve path).toOption.bind tree.nodeAt = some .input

instance (tree : FileTree) (path : Text) : Decidable (tree.ReadsInput path) :=
  inferInstanceAs (Decidable (_ = _))

/-- **The text of a file** does not depend on the input, unless its path leads to the input. -/
theorem readText_withInput {path : Text} (h : ¬ tree.ReadsInput path) (bytes : List UInt8) :
    (tree.withInput bytes).readText path = tree.readText path := by
  rw [readText, readText, readBytes, readBytes, resolve_withInput]
  cases hplace : tree.resolve path with
  | error cause => rfl
  | ok place =>
      rw [ReadsInput, hplace] at h
      simp only [bytesAt_withInput h]

/-- The names lead to the input of the program. -/
def NamesInput (tree : FileTree) (names : List Text) : Prop :=
  (tree.follow here names).toOption.bind tree.nodeAt = some .input

instance (tree : FileTree) (names : List Text) : Decidable (tree.NamesInput names) :=
  inferInstanceAs (Decidable (_ = _))

/-- The bytes of a file do not depend on the input, unless its names lead there. -/
lemma readNamed_withInput (h : ¬ tree.NamesInput names) (bytes : List UInt8) :
    (tree.withInput bytes).readNamed names = tree.readNamed names := by
  rw [readNamed, readNamed, follow_withInput]
  cases hplace : tree.follow here names with
  | error cause => rfl
  | ok place =>
      rw [NamesInput, hplace] at h
      simp only [bytesAt_withInput h]

lemma put_withInput (tree : FileTree) (bytes : List UInt8) (place : Place) (node : FileNode) :
    (tree.withInput bytes).put place node =
      (tree.put place node).withInput bytes := by
  unfold put
  split <;> rfl

/-- Which directories are made does not depend on the input. -/
lemma makeFrom_withInput (tree : FileTree) (bytes : List UInt8) (place : Place)
    (names : List Text) :
    (tree.withInput bytes).makeFrom place names =
      ((tree.makeFrom place names).1,
        (tree.makeFrom place names).2.withInput bytes) := by
  induction names generalizing tree place with
  | nil => rfl
  | cons name more ih =>
      have hturn : (tree.withInput bytes).turn? place name = tree.turn? place name := rfl
      have hchild : (tree.withInput bytes).child place name = tree.child place name := rfl
      have hbehind : ∀ p, (tree.withInput bytes).behind p = tree.behind p := fun _ => rfl
      have hnode : ∀ p, (tree.withInput bytes).nodeAt p = tree.nodeAt p := fun _ => rfl
      have hwriting : (tree.withInput bytes).writing = tree.writing := rfl
      simp only [makeFrom, hturn, hchild, hbehind, hnode, hwriting, put_withInput]
      cases tree.turn? place name with
      | some next => exact ih tree next
      | none =>
          simp only
          split
          · rfl
          split
          · exact ih tree _
          · rfl
          split
          · rfl
          split
          · rfl
          all_goals exact ih _ _

/-- What can be written does not depend on the input. -/
lemma write_withInput (tree : FileTree) (input : List UInt8) (directory : List Text) (name : Text)
    (bytes : List UInt8) :
    (tree.withInput input).write directory name bytes =
      match tree.write directory name bytes with
      | .ok saved => .ok (saved.withInput input)
      | .error refused => .error ⟨refused.cause, refused.files.withInput input⟩ := by
  have hfile : (tree.withInput input).fileIn directory name = tree.fileIn directory name := by
    rw [fileIn, fileIn, follow_withInput]
    rfl
  have hstore : ∀ place, (tree.withInput input).store place bytes =
      match tree.store place bytes with
      | .ok saved => .ok (saved.withInput input)
      | .error refused => .error ⟨refused.cause, refused.files.withInput input⟩ := by
    intro place
    have hwriting : (tree.withInput input).writing = tree.writing := rfl
    simp only [store, put_withInput, hwriting]
    cases tree.writing with
    | free | barred _ => rfl
    | upTo size cause =>
        simp only
        split <;> rfl
  have hnode : ∀ p, (tree.withInput input).nodeAt p = tree.nodeAt p := fun _ => rfl
  have hparent : ∀ p, (tree.withInput input).parent p = tree.parent p := fun _ => rfl
  rw [write, write, hfile]
  cases tree.fileIn directory name with
  | error cause => rfl
  | ok place =>
      simp only [hnode, hparent]
      cases hat : tree.nodeAt place with
      | none =>
          simp only
          split
          · exact hstore place
          · rfl
      | some node =>
          cases node with
          | file _ => exact hstore place
          | fixed _ refusal => cases refusal <;> rfl
          | input | barred _ | directory | link _ => rfl

end MonkeyTokens.FileTree
