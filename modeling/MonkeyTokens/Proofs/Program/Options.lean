import MonkeyTokens.Program.Options
import Mathlib.Data.List.Perm.Basic
import Mathlib.Data.List.Basic

/-!
# Options and the arguments that ask for them

Each option can be written in several ways, and the options in any order.  What the arguments ask
for then depends on the options alone.  A value that was given is taken in late, so the reader of
arguments is compared with a plainer one, that takes in one option after the other.

* `Wish`, `Spells`, `SpellsAll` — one thing that can be asked for, the ways to write it, and the
  arguments of several, one after the other;
* `Wish.take`, `takeAll` — taking in one thing, or several, and `takeAll_perm` — in which order does
  not matter;
* `Options.Reading.settled` — what the arguments read so far ask for, a value that is not taken in
  yet included; `Spells.grants` — how reading the arguments of one thing changes it;
* **`parse_of_spellsAll`** — arguments that are written for some things ask for these things;
  `parse_of_perm`, `parse_of_spells` — so do those of whole options, and of one thing alone;
* **`options_roundtrip`** — options come back from their arguments, in every spelling and order, and
  what is asked for twice, or against something else, is refused.
-/

namespace MonkeyTokens

/-! ## Writing options -/

/-- One thing that arguments can ask for. -/
inductive Wish where
  | file (path : Text)
  | eval (source : Text)
  | noColor
  | verbose
  deriving DecidableEq, Repr

/-- A file is asked for. -/
def Wish.isFile : Wish → Bool
  | .file _ => true
  | _ => false

/-- What options ask for. -/
def Options.wishes (o : Options) : List Wish :=
  (o.file.map Wish.file).toList ++ (o.eval.map Wish.eval).toList ++
    (if o.noColor then [.noColor] else []) ++ (if o.verbose then [.verbose] else [])

/-- The options ask for a file or a source, but not for both. -/
def Options.Exclusive (o : Options) : Prop :=
  o.file = none ∨ o.eval = none

/-- An argument that can be a value by itself: a hyphen alone, or what starts with none. -/
def IsValue (argument : Text) : Prop :=
  argument = ['-'] ∨ argument.head? ≠ some '-'

instance (argument : Text) : Decidable (IsValue argument) :=
  inferInstanceAs (Decidable (_ ∨ _))

/-- The ways to write one thing. -/
inductive Spells : Wish → List Text → Prop
  | file {path : Text} : path ≠ [] → IsValue path → Spells (.file path) [path]
  | short {source : Text} : IsValue source → Spells (.eval source) ["-e".toList, source]
  | long {source : Text} : IsValue source → Spells (.eval source) ["--eval".toList, source]
  | attached {source : Text} : source ≠ [] → source.head? ≠ some '=' →
      Spells (.eval source) ["-e".toList ++ source]
  | shortEquals (source : Text) : Spells (.eval source) ["-e=".toList ++ source]
  | longEquals (source : Text) : Spells (.eval source) ["--eval=".toList ++ source]
  | noColor : Spells .noColor ["--no-color".toList]
  | verbose : Spells .verbose ["--verbose".toList]

/-- The arguments of several things, one after the other.  A file with any name can be the last of
    them, after two hyphens. -/
inductive SpellsAll : List Wish → List Text → Prop
  | nil : SpellsAll [] []
  | cons {wish : Wish} {wishes : List Wish} {arguments more : List Text} :
      Spells wish arguments → SpellsAll wishes more → SpellsAll (wish :: wishes) (arguments ++ more)
  | escaped {path : Text} : path ≠ [] → SpellsAll [.file path] ["--".toList, path]

/-! ## Taking in one thing after the other -/

/-- Takes in one thing. -/
def Wish.take (o : Options) : Wish → Except Usage Options
  | .file path => .ok { o with file := some path }
  | .eval source => o.takeEval source
  | .noColor => o.takeFlag .noColor
  | .verbose => o.takeFlag .verbose

/-- Takes in several things, one after the other. -/
def takeAll (o : Options) (wishes : List Wish) : Except Usage Options :=
  wishes.foldlM Wish.take o

/-- A file and a source exclude each other. -/
def exclude (o : Options) : Except Usage Options :=
  if o.file.isSome && o.eval.isSome then .error .argumentConflict else .ok o

lemma exclude_eq_ok_iff {o o' : Options} : exclude o = .ok o' ↔ o.Exclusive ∧ o = o' := by
  rw [exclude, Options.Exclusive]
  cases o.file <;> cases o.eval <;> simp

/-- The order of two things does not matter, unless both are files. -/
lemma take_comm (o : Options) {a b : Wish} (h : a.isFile = false ∨ b.isFile = false) :
    ((Wish.take o a).bind fun o => Wish.take o b) =
      (Wish.take o b).bind fun o => Wish.take o a := by
  obtain ⟨file, eval, noColor, verbose⟩ := o
  cases a <;> cases b <;> cases eval <;> cases noColor <;> cases verbose <;>
    simp_all [Wish.take, Wish.isFile, Options.takeEval, Options.takeFlag, Except.bind]

/-- **The order of several things** does not matter, if there is at most one file among them. -/
theorem takeAll_perm {wishes wishes' : List Wish} (h : wishes.Perm wishes')
    (hfiles : wishes.countP Wish.isFile ≤ 1) (o : Options) :
    takeAll o wishes = takeAll o wishes' := by
  have hsame : ∀ a ∈ wishes, ∀ b ∈ wishes, a.isFile = true → b.isFile = true → a = b := by
    intro a ha b hb hafile hbfile
    rw [List.countP_eq_length_filter] at hfiles
    have ha' : a ∈ wishes.filter Wish.isFile := List.mem_filter.mpr ⟨ha, hafile⟩
    have hb' : b ∈ wishes.filter Wish.isFile := List.mem_filter.mpr ⟨hb, hbfile⟩
    obtain ⟨c, hc⟩ :=
      List.length_eq_one_iff.mp (Nat.le_antisymm hfiles (List.length_pos_of_mem ha'))
    rw [hc, List.mem_singleton] at ha' hb'
    rw [ha', hb']
  rw [takeAll, takeAll, List.foldlM_eq_foldl, List.foldlM_eq_foldl]
  refine h.foldl_eq' (fun a ha b hb so => ?_) _
  cases so with
  | error cause => rfl
  | ok o =>
      by_cases hboth : a.isFile = true ∧ b.isFile = true
      · rw [hsame a ha b hb hboth.1 hboth.2]
      · have hone : a.isFile = false ∨ b.isFile = false := by
          rwa [not_and_or, Bool.not_eq_true, Bool.not_eq_true] at hboth
        exact take_comm o hone

/-- The things that options ask for make up these options. -/
lemma takeAll_wishes (o : Options) : takeAll .default o.wishes = .ok o := by
  obtain ⟨file, eval, noColor, verbose⟩ := o
  cases file <;> cases eval <;> cases noColor <;> cases verbose <;> rfl

lemma countP_wishes (o : Options) : o.wishes.countP Wish.isFile = o.file.toList.length := by
  obtain ⟨file, eval, noColor, verbose⟩ := o
  cases file <;> cases eval <;> cases noColor <;> cases verbose <;> rfl

/-! ## What arguments look like -/

lemma classify_of_isValue {value : Text} (h : IsValue value) :
    Argument.classify value = .plain value := by
  unfold Argument.classify
  split
  · exact absurd h (by decide)
  · simp [IsValue] at h
  · simp [IsValue] at h
  · rfl

/-- A value after the letter of its option. -/
lemma classify_attached {source : Text} (hne : source ≠ []) (h : source.head? ≠ some '=') :
    Argument.classify ("-e".toList ++ source) = .eval (some source) := by
  obtain ⟨c, cs, rfl⟩ := List.exists_cons_of_ne_nil hne
  have hc : c ≠ '=' := fun hc => h (by rw [hc, List.head?_cons])
  show Argument.classifyShort 'e' (c :: cs) = _
  unfold Argument.classifyShort
  rw [if_pos rfl]
  split
  · next heq => cases heq
  · next heq => exact absurd (List.cons.inj heq).1 hc
  · rfl

/-! ## Reading arguments -/

namespace Options.Reading

/-- What the arguments read so far ask for, a value that is not taken in yet included. -/
def settled (r : Reading) : Except Usage Options :=
  r.options.settle r.pending

/-- The next argument starts something new. -/
structure Ready (r : Reading) : Prop where
  escaped : r.escaped = false
  pending : r.pending ≠ .eval none

/-- What reading the arguments of one thing comes to: it is refused as it would be if it was taken
    in at once, or it is noted. -/
inductive Grants (r : Reading) (wish : Wish) : Except Usage Reading → Prop
  | refused {cause : Usage} : (r.settled.bind fun o => wish.take o) = .error cause →
      Grants r wish (.error cause)
  | granted {next : Reading} : next.Ready → next.settled = (r.settled.bind fun o => wish.take o) →
      next.hasFile = (r.hasFile || wish.isFile) → Grants r wish (.ok next)

variable {r : Reading}

lemma settle_eq_settled : r.options.settle r.pending = r.settled := rfl

lemma Ready.read (hr : r.Ready) (argument : Text) :
    r.read argument = r.readArgument (.classify argument) := by
  rw [Reading.read, hr.escaped]
  rfl

lemma Ready.readArgument_plain (hr : r.Ready) (value : Text) :
    r.readArgument (.plain value) = r.readFile value := by
  rw [Reading.readArgument, if_neg hr.pending]

/-- A file is asked for if there is none yet. -/
lemma settled_readFile (hfile : r.hasFile = false) {path : Text} (hne : path ≠ []) :
    (r.readFile path).bind settled = r.settled.bind fun o => (Wish.file path).take o := by
  rw [Reading.readFile, hfile, if_neg Bool.false_ne_true, settle_eq_settled]
  obtain ⟨c, cs, rfl⟩ := List.exists_cons_of_ne_nil hne
  cases r.settled <;> rfl

/-- A file is noted if there is none yet. -/
lemma grants_readFile (hescaped : r.escaped = false) (hfile : r.hasFile = false) {path : Text}
    (hne : path ≠ []) : r.Grants (.file path) (r.readFile path) := by
  rw [Reading.readFile, hfile, if_neg Bool.false_ne_true, settle_eq_settled]
  cases hsettled : r.settled with
  | error cause => exact .refused (by rw [hsettled]; rfl)
  | ok o =>
      refine .granted ⟨hescaped, by simp⟩ ?_ (by simp [Wish.isFile])
      obtain ⟨c, cs, rfl⟩ := List.exists_cons_of_ne_nil hne
      rw [hsettled]
      rfl

/-- A thing is taken in at once, after the value before it. -/
lemma grants_take (hescaped : r.escaped = false) {wish : Wish} (hfile : wish.isFile = false) :
    r.Grants wish (do
      let options ← r.settled
      let options ← wish.take options
      return { r with options, pending := .nothing }) := by
  cases hsettled : r.settled with
  | error cause => exact .refused (by rw [hsettled]; rfl)
  | ok o =>
      cases htake : wish.take o with
      | error cause =>
          simp only [Bind.bind, Except.bind, htake]
          exact .refused (by rw [hsettled]; exact htake)
      | ok next =>
          simp only [Bind.bind, Except.bind, htake]
          refine .granted ⟨hescaped, by simp⟩ ?_ (by simp [hfile])
          rw [hsettled]
          exact htake.symm

/-- A source that follows its option is noted. -/
lemma Ready.grants_value (hr : r.Ready) {option source : Text}
    (hoption : Argument.classify option = .eval none) (hsource : IsValue source) :
    r.Grants (.eval source) ([option, source].foldlM Reading.read r) := by
  rw [List.foldlM_cons, hr.read, hoption, Reading.readArgument, settle_eq_settled]
  cases hsettled : r.settled with
  | error cause => exact .refused (by rw [hsettled]; rfl)
  | ok o =>
      have hread : Reading.read ⟨o, .eval none, r.hasFile, false⟩ source =
          .ok ⟨o, .eval (some source), r.hasFile, false⟩ := by
        rw [Reading.read, if_neg Bool.false_ne_true, classify_of_isValue hsource,
          Reading.readArgument, if_pos rfl]
      simp only [Bind.bind, Except.bind, Pure.pure, Except.pure, hr.escaped, List.foldlM_cons,
        List.foldlM_nil, hread]
      refine .granted ⟨rfl, by simp⟩ ?_ (by simp [Wish.isFile])
      rw [hsettled]
      rfl

lemma foldlM_read_singleton (r : Reading) (argument : Text) :
    [argument].foldlM Reading.read r = r.read argument := by
  rw [List.foldlM_cons]
  cases r.read argument <;> rfl

end Options.Reading

open Options Options.Reading

/-- **The arguments of one thing** are read as if it was taken in at once. -/
theorem Spells.grants {wish : Wish} {arguments : List Text} {r : Reading}
    (h : Spells wish arguments) (hr : r.Ready) (hfile : wish.isFile = true → r.hasFile = false) :
    r.Grants wish (arguments.foldlM Reading.read r) := by
  cases h with
  | file hne hvalue =>
      rw [foldlM_read_singleton, hr.read, classify_of_isValue hvalue, hr.readArgument_plain]
      exact grants_readFile hr.escaped (hfile rfl) hne
  | short hvalue => exact hr.grants_value rfl hvalue
  | long hvalue => exact hr.grants_value rfl hvalue
  | attached hne hequals =>
      rw [foldlM_read_singleton, hr.read, classify_attached hne hequals]
      exact grants_take hr.escaped rfl
  | shortEquals source =>
      have hclassify : Argument.classify ("-e=".toList ++ source) = .eval (some source) := rfl
      rw [foldlM_read_singleton, hr.read, hclassify]
      exact grants_take hr.escaped rfl
  | longEquals source =>
      have hclassify : Argument.classify ("--eval=".toList ++ source) = .eval (some source) := rfl
      rw [foldlM_read_singleton, hr.read, hclassify]
      exact grants_take hr.escaped rfl
  | noColor =>
      have hclassify : Argument.classify "--no-color".toList = .flag .noColor := rfl
      rw [foldlM_read_singleton, hr.read, hclassify]
      exact grants_take hr.escaped rfl
  | verbose =>
      have hclassify : Argument.classify "--verbose".toList = .flag .verbose := rfl
      rw [foldlM_read_singleton, hr.read, hclassify]
      exact grants_take hr.escaped rfl

/-- **The arguments of several things** are read as if each was taken in at once. -/
theorem SpellsAll.settled_foldlM {wishes : List Wish} {arguments : List Text}
    (h : SpellsAll wishes arguments) {r : Reading} (hr : r.Ready)
    (hfiles : wishes.countP Wish.isFile + r.hasFile.toNat ≤ 1) :
    (arguments.foldlM Reading.read r).bind settled = r.settled.bind (takeAll · wishes) := by
  induction h generalizing r with
  | nil =>
      cases hsettled : r.settled <;>
        simp [takeAll, Except.bind, Pure.pure, Except.pure, hsettled]
  | @cons wish wishes arguments more hfirst _ ih =>
      rw [List.countP_cons] at hfiles
      have hfile : wish.isFile = true → r.hasFile = false := by
        intro hwish
        rw [if_pos hwish] at hfiles
        cases hhas : r.hasFile
        · rfl
        · rw [hhas, Bool.toNat_true] at hfiles
          omega
      have hgrants := hfirst.grants hr hfile
      have hstep : r.settled.bind (takeAll · (wish :: wishes)) =
          (r.settled.bind fun o => wish.take o).bind (takeAll · wishes) := by
        cases r.settled <;> rfl
      rw [List.foldlM_append, hstep]
      cases hread : arguments.foldlM Reading.read r with
      | error cause =>
          rw [hread] at hgrants
          cases hgrants with
          | refused hrefused =>
              rw [hrefused]
              rfl
      | ok next =>
          rw [hread] at hgrants
          cases hgrants with
          | granted hready hsettled hhas =>
              rw [← hsettled]
              refine ih hready ?_
              rw [hhas]
              cases hwish : wish.isFile <;> simp_all
  | @escaped path hne =>
      have hhas : r.hasFile = false := by
        cases hhas : r.hasFile
        · rfl
        · rw [hhas] at hfiles
          simp [Wish.isFile] at hfiles
      have hescape : r.read "--".toList = .ok { r with escaped := true } := hr.read _
      have hread : ["--".toList, path].foldlM Reading.read r =
          Reading.readFile path { r with escaped := true } := by
        rw [List.foldlM_cons, hescape]
        exact foldlM_read_singleton _ _
      have hlast : (takeAll · [.file path]) = fun o => (Wish.file path).take o := rfl
      rw [hread, hlast]
      exact settled_readFile (r := { r with escaped := true }) hhas hne

/-! ## All arguments -/

/-- What all arguments ask for is taken in, and then excluded or not. -/
lemma parse_eq (arguments : List Text) :
    Options.parse arguments =
      ((arguments.foldlM Reading.read Reading.start).bind settled).bind exclude := by
  rw [Options.parse]
  cases arguments.foldlM Reading.read Reading.start <;> rfl

/-- **Arguments that are written for some things** ask for these things. -/
theorem parse_of_spellsAll {wishes : List Wish} {arguments : List Text}
    (h : SpellsAll wishes arguments) (hfiles : wishes.countP Wish.isFile ≤ 1) :
    Options.parse arguments = (takeAll .default wishes).bind exclude := by
  have hstart : Reading.start.Ready := ⟨rfl, by decide⟩
  have hread := h.settled_foldlM hstart hfiles
  rw [parse_eq, hread]
  rfl

/-- Arguments that are written for options, in any order, ask for these options. -/
lemma parse_of_perm {o : Options} {wishes : List Wish} {arguments : List Text}
    (hexclusive : o.Exclusive) (hperm : wishes.Perm o.wishes) (hspells : SpellsAll wishes arguments) :
    Options.parse arguments = .ok o := by
  have hfiles : wishes.countP Wish.isFile ≤ 1 := by
    rw [hperm.countP_eq, countP_wishes]
    cases o.file <;> simp
  rw [parse_of_spellsAll hspells hfiles, takeAll_perm hperm hfiles, takeAll_wishes]
  exact exclude_eq_ok_iff.mpr ⟨hexclusive, rfl⟩

/-- The arguments of one thing alone ask for just that. -/
lemma parse_of_spells {wish : Wish} {arguments : List Text} (h : Spells wish arguments) :
    Options.parse arguments = (wish.take .default).bind exclude := by
  have hfiles : [wish].countP Wish.isFile ≤ 1 := List.countP_le_length
  have hall := parse_of_spellsAll (.cons h .nil) hfiles
  rw [List.append_nil] at hall
  rw [hall]
  cases wish <;> rfl

/-- What can be asked for is exclusive. -/
lemma exclusive_of_parse {arguments : List Text} {o : Options}
    (h : Options.parse arguments = .ok o) : o.Exclusive := by
  rw [parse_eq] at h
  cases hsettled : (arguments.foldlM Reading.read Reading.start).bind settled with
  | error cause =>
      rw [hsettled] at h
      cases h
  | ok settled =>
      rw [hsettled] at h
      obtain ⟨hexclusive, rfl⟩ := exclude_eq_ok_iff.mp h
      exact hexclusive

/-- One thing more cannot be asked for: a file beside a source, or what is asked for already. -/
def Wish.Clashes (o : Options) : Wish → Prop
  | .file _ => o.eval ≠ none
  | .eval _ => o.eval ≠ none
  | .noColor => o.noColor = true
  | .verbose => o.verbose = true

lemma Wish.Clashes.take {o : Options} {wish : Wish} (h : wish.Clashes o) :
    (wish.take o).bind exclude = .error .argumentConflict := by
  obtain ⟨file, eval, noColor, verbose⟩ := o
  cases wish with
  | file path =>
      obtain ⟨source, rfl⟩ := Option.ne_none_iff_exists'.mp h
      rfl
  | eval source =>
      obtain ⟨source', rfl⟩ := Option.ne_none_iff_exists'.mp h
      rfl
  | noColor =>
      obtain rfl : noColor = true := h
      rfl
  | verbose =>
      obtain rfl : verbose = true := h
      rfl

/-! ## There and back -/

/-- What is no file can be written before anything else. -/
lemma SpellsAll.exists_append {last : List Wish} {arguments : List Text}
    (h : SpellsAll last arguments) {wishes : List Wish}
    (hfiles : ∀ wish ∈ wishes, wish.isFile = false) :
    ∃ arguments, SpellsAll (wishes ++ last) arguments := by
  induction wishes with
  | nil => exact ⟨arguments, h⟩
  | cons wish wishes ih =>
      obtain ⟨more, hmore⟩ := ih fun wish hwish => hfiles wish (List.mem_cons_of_mem _ hwish)
      cases wish with
      | file path => cases hfiles (.file path) List.mem_cons_self
      | eval source => exact ⟨_, .cons (.shortEquals source) hmore⟩
      | noColor => exact ⟨_, .cons .noColor hmore⟩
      | verbose => exact ⟨_, .cons .verbose hmore⟩

/-- **All options can be written**, if the file they ask for has a name. -/
lemma Options.exists_spellsAll {o : Options} (h : o.file ≠ some []) :
    ∃ wishes arguments, wishes.Perm o.wishes ∧ SpellsAll wishes arguments := by
  obtain ⟨file, eval, noColor, verbose⟩ := o
  have hlast : ∃ arguments, SpellsAll (file.map Wish.file).toList arguments := by
    cases file with
    | none => exact ⟨[], .nil⟩
    | some path => exact ⟨_, .escaped fun hnil => h (congrArg some hnil)⟩
  obtain ⟨last, hspells⟩ := hlast
  have hothers : ∀ wish ∈ (eval.map Wish.eval).toList ++ ((if noColor then [.noColor] else []) ++
      if verbose then [.verbose] else []), wish.isFile = false := by
    cases eval <;> cases noColor <;> cases verbose <;> simp [Wish.isFile]
  obtain ⟨arguments, hall⟩ := hspells.exists_append hothers
  refine ⟨_, arguments, List.perm_append_comm.trans ?_, hall⟩
  simp only [Options.wishes, List.append_assoc]
  exact .refl _

/-- Options and one thing more that clashes with them ask for one file at most. -/
lemma Wish.Clashes.countP_le {o : Options} {wish : Wish} (h : wish.Clashes o)
    (hexclusive : o.Exclusive) : (o.wishes ++ [wish]).countP Wish.isFile ≤ 1 := by
  rw [List.countP_append, countP_wishes]
  cases wish with
  | file path =>
      have hnone : o.file = none := hexclusive.resolve_right h
      simp [hnone, Wish.isFile]
  | eval _ | noColor | verbose => cases o.file <;> simp [Wish.isFile]

/-- **Options come back from their arguments.**  Options for a file or a source, but not for both,
    can be written, in every spelling and in every order, and they are what the arguments ask for.
    No arguments at all ask for both.  Where the arguments of one thing more stand among them, be it
    a file beside a source or what is asked for already, the arguments conflict. -/
theorem options_roundtrip :
    (∀ o : Options, o.file ≠ some [] →
      ∃ wishes arguments, wishes.Perm o.wishes ∧ SpellsAll wishes arguments) ∧
      (∀ (o : Options) (wishes : List Wish) (arguments : List Text), o.Exclusive →
        wishes.Perm o.wishes → SpellsAll wishes arguments → Options.parse arguments = .ok o) ∧
      (∀ (o : Options) (arguments : List Text), Options.parse arguments = .ok o → o.Exclusive) ∧
      ∀ (o : Options) (wish : Wish) (wishes : List Wish) (arguments : List Text), o.Exclusive →
        wish.Clashes o → wishes.Perm (wish :: o.wishes) → SpellsAll wishes arguments →
        Options.parse arguments = .error .argumentConflict := by
  refine ⟨fun o hfile => o.exists_spellsAll hfile,
    fun o wishes arguments hexclusive hperm hspells => parse_of_perm hexclusive hperm hspells,
    fun o arguments hparse => exclusive_of_parse hparse,
    fun o wish wishes arguments hexclusive hclash hperm hspells => ?_⟩
  · have hlast : wishes.Perm (o.wishes ++ [wish]) :=
      hperm.trans (List.perm_append_singleton _ _).symm
    have hfiles : wishes.countP Wish.isFile ≤ 1 := by
      rw [hlast.countP_eq]
      exact hclash.countP_le hexclusive
    have htake : takeAll .default (o.wishes ++ [wish]) = wish.take o := by
      have hfirst : o.wishes.foldlM Wish.take Options.default = .ok o := takeAll_wishes o
      rw [takeAll, List.foldlM_append, hfirst]
      cases hwish : wish.take o <;> simp [Bind.bind, Except.bind, Pure.pure, Except.pure, hwish]
    rw [parse_of_spellsAll hspells hfiles, takeAll_perm hlast hfiles, htake]
    exact hclash.take

/-- A source that starts with an equals sign and a hyphen, between two flags; and with it, in the
    end, a file that looks like a flag. -/
theorem options_roundtrip_attached :
    Options.parse ["--verbose".toList, "-e==-5".toList, "--no-color".toList] =
        .ok ⟨none, some "=-5".toList, true, true⟩ ∧
      Options.parse
          ["--verbose".toList, "-e==-5".toList, "--no-color".toList, "--".toList, "-f".toList] =
        .error .argumentConflict := by
  obtain ⟨-, hroundtrip, -, hclash⟩ := options_roundtrip
  have hsource : Spells (.eval "=-5".toList) ["-e==-5".toList] := .shortEquals "=-5".toList
  constructor
  · exact hroundtrip ⟨none, some "=-5".toList, true, true⟩
      [.verbose, .eval "=-5".toList, .noColor] _ (.inl rfl) (by decide)
      (.cons .verbose (.cons hsource (.cons .noColor .nil)))
  · exact hclash ⟨none, some "=-5".toList, true, true⟩ (.file "-f".toList)
      [.verbose, .eval "=-5".toList, .noColor, .file "-f".toList] _ (.inl rfl)
      (by simp [Wish.Clashes]) (by decide)
      (.cons .verbose (.cons hsource (.cons .noColor (.escaped (by decide)))))

end MonkeyTokens
