import MonkeyTokens.Prompt.Command
import MonkeyTokens.Proofs.Text.Trim
import Mathlib.Data.List.TakeWhile

/-!
# The grammar of dot-commands

What is read as a call, said without reading it.

**The grammar.**  `Command.Parts` cuts a call into a dot, a name that has no blank character, and a
rest that is empty or starts with one.  There is one way to do so (`Command.parts_iff`).  The rest
is the argument once it is trimmed.  Nothing but the gap in front of it goes, as no call ends with
a blank character (`Command.Parts.argument`), so an argument is never empty.

**Lower case.**  Names are looked up in lower case, and a name may have any characters.  A
`Command.Lowering` gives each character its lower-case form, which may depend on its neighbours and
have more characters than one.  All that matters is that it is right for ASCII and that no foreign
character is taken for letters of a name (`Command.Lowering.lower_mem_names_iff`).
`Command.parseIn?` reads with such a lowering, and cuts at the first blank character.

**`parse_iff_parts`** is the grammar, of both ways to read.
-/

namespace MonkeyTokens

open Text

namespace Command

/-! ## The parts of a call -/

/-- The parts of a call without blank characters at its ends. -/
structure Parts (call name rest : Text) : Prop where
  split : call = '.' :: (name ++ rest)
  name : ∀ c ∈ name, isBlank c = false
  rest : ∀ c ∈ rest.head?, isBlank c = true

/-- What follows a name, as an argument. -/
def argument? (rest : Text) : Option Text :=
  if rest = [] then none else some (trim rest)

/-- **One way to cut a call.**  The name goes on to the first blank character. -/
lemma parts_iff {call name rest : Text} :
    Parts call name rest ↔ ∃ body, call = '.' :: body ∧
      name = body.takeWhile (fun c => !isBlank c) ∧
      rest = body.dropWhile (fun c => !isBlank c) := by
  constructor
  · rintro ⟨rfl, hname, hrest⟩
    have hsolid : ∀ c ∈ name, (!isBlank c) = true := fun c hc => by rw [hname c hc]; rfl
    refine ⟨name ++ rest, rfl, ?_, ?_⟩
    · rw [List.takeWhile_append_of_pos hsolid]
      cases rest with
      | nil => simp
      | cons c rest => simp [hrest c rfl]
    · rw [List.dropWhile_append_of_pos hsolid]
      cases rest with
      | nil => rfl
      | cons c rest => simp [hrest c rfl]
  · rintro ⟨body, rfl, rfl, rfl⟩
    refine ⟨by rw [List.takeWhile_append_dropWhile], fun c hc => ?_, fun c hc => ?_⟩
    · simpa using List.mem_takeWhile_imp hc
    · have hnot := List.head?_dropWhile_not (fun c => !isBlank c) body
      rw [hc] at hnot
      simpa using hnot

/-- **What follows the name** of a trimmed call is a gap and its argument, if there is anything. -/
theorem Parts.argument {call name rest : Text} (h : Parts call name rest) (hcall : Trimmed call)
    (hne : rest ≠ []) :
    trim rest ≠ [] ∧ Trimmed (trim rest) ∧ ∃ gap, Blank gap ∧ rest = gap ++ trim rest := by
  have hlast : ∀ c ∈ rest.getLast?, isBlank c = false := by
    intro c hc
    refine hcall.last c ?_
    rw [h.split, ← List.cons_append, List.getLast?_append_of_ne_nil _ hne]
    exact hc
  exact ⟨trim_ne_nil hlast hne, trimmed_trim rest, leading rest, blank_leading rest,
    (leading_append_trim hlast).symm⟩

/-! ## Names -/

/-- The command that a name in lower case belongs to. -/
lemma find?_names_eq_some_iff {name : Text} {command : Command} :
    (all.find? fun command => name ∈ command.names) = some command ↔ name ∈ command.names := by
  constructor
  · intro h
    simpa using List.find?_some h
  · revert name
    cases command <;> decide

/-- The characters of all names. -/
def letters : Text :=
  (all.flatMap names).flatten

lemma mem_letters {command : Command} {name : Text} (hname : name ∈ command.names) {c : Char}
    (hc : c ∈ name) : c ∈ letters := by
  have hall : command ∈ all := by
    cases command <;> decide
  exact List.mem_flatten.mpr ⟨name, List.mem_flatMap.mpr ⟨command, hall, hname⟩, hc⟩

lemma toNat_of_mem_letters {c : Char} (h : c ∈ letters) : c.toNat < 128 := by
  have hall : (letters.all fun c => c.toNat < 128) = true := by decide
  simpa using List.all_eq_true.mp hall c h

/-- The lower-case forms of characters, each between what stands before it and after it. -/
structure Lowering where
  form : Text → Char → Text → Text
  /-- It is right for ASCII. -/
  ascii : ∀ before c after, c.toNat < 128 → form before c after = [c.toLower]
  /-- No other character comes to letters of a name alone. -/
  foreign : ∀ before c after, 128 ≤ c.toNat → ∃ d ∈ form before c after, d ∉ letters

namespace Lowering

/-- The lower-case form of a text that stands behind another. -/
def lower (l : Lowering) (before : Text) : Text → Text
  | [] => []
  | c :: cs => l.form before c cs ++ l.lower (before ++ [c]) cs

lemma lower_of_ascii (l : Lowering) {name : Text} (h : ∀ c ∈ name, c.toNat < 128) (before : Text) :
    l.lower before name = name.map Char.toLower := by
  induction name generalizing before with
  | nil => rfl
  | cons c cs ih =>
      obtain ⟨hc, hcs⟩ := List.forall_mem_cons.mp h
      rw [lower, l.ascii before c cs hc, ih hcs]
      rfl

lemma exists_foreign (l : Lowering) {name : Text} {c : Char} (hc : c ∈ name)
    (hforeign : 128 ≤ c.toNat) (before : Text) : ∃ d ∈ l.lower before name, d ∉ letters := by
  induction name generalizing before with
  | nil => cases hc
  | cons e cs ih =>
      rw [lower]
      rcases List.mem_cons.mp hc with rfl | hc
      · obtain ⟨d, hd, hno⟩ := l.foreign before c cs hforeign
        exact ⟨d, List.mem_append_left _ hd, hno⟩
      · obtain ⟨d, hd, hno⟩ := ih hc (before ++ [e])
        exact ⟨d, List.mem_append_right _ hd, hno⟩

end Lowering

lemma toLower_of_foreign {c : Char} (h : 128 ≤ c.toNat) : c.toLower = c := by
  have hval : ¬ c.val ≤ 90 := by
    rw [UInt32.le_iff_toNat_le]
    have hnat : c.val.toNat = c.toNat := rfl
    have hbound : (90 : UInt32).toNat = 90 := rfl
    omega
  exact dif_neg fun h => hval h.2

/-- A lowering that takes the Kelvin sign for a `k`, and leaves all other foreign characters. -/
def Lowering.kelvin : Lowering where
  form _ c _ := if c = '\u212A' then ['k'] else [c.toLower]
  ascii := by
    intro before c after hc
    rw [if_neg]
    rintro rfl
    exact absurd hc (by decide)
  foreign := by
    intro before c after hc
    by_cases hkelvin : c = '\u212A'
    · exact ⟨'k', by simp [hkelvin], by decide⟩
    · refine ⟨c, by simp [hkelvin, toLower_of_foreign hc], fun hletter => ?_⟩
      exact absurd (toNat_of_mem_letters hletter) (Nat.not_lt.mpr hc)

/-- **Any lowering finds the names** that are found in ASCII. -/
theorem Lowering.lower_mem_names_iff (l : Lowering) (name : Text) (command : Command) :
    l.lower [] name ∈ command.names ↔ name.map Char.toLower ∈ command.names := by
  by_cases h : ∀ c ∈ name, c.toNat < 128
  · rw [l.lower_of_ascii h]
  · -- a foreign character is in neither form of a name
    obtain ⟨c, hc, hforeign⟩ : ∃ c ∈ name, 128 ≤ c.toNat := by simpa using h
    constructor
    · intro hmem
      obtain ⟨d, hd, hno⟩ := l.exists_foreign hc hforeign []
      exact absurd (mem_letters hmem hd) hno
    · intro hmem
      have hletter := toNat_of_mem_letters (mem_letters hmem (List.mem_map_of_mem hc))
      rw [toLower_of_foreign hforeign] at hletter
      omega

lemma Lowering.find?_names (l : Lowering) (name : Text) :
    (all.find? fun command => command.names.contains (l.lower [] name)) = ofName? name := by
  refine congrArg (all.find? ·) (funext fun command => ?_)
  rw [List.contains_eq_mem]
  exact decide_eq_decide.mpr (l.lower_mem_names_iff name command)

/-! ## Reading -/

/-- A text cut at its first blank character, which is left out. -/
def cutAtBlank : Text → Text × Option Text
  | [] => ([], none)
  | c :: cs =>
    if isBlank c then ([], some cs)
    else ((c :: (cutAtBlank cs).1), (cutAtBlank cs).2)

/-- Reads a call whose name is looked up with a lowering. -/
def parseIn? (l : Lowering) (input : Text) : Option Call :=
  match trim input with
  | '.' :: call =>
    let (name, rest) := cutAtBlank call
    (all.find? fun command => command.names.contains (l.lower [] name)).map fun command =>
      ⟨command, (rest.map trim).filter (· ≠ [])⟩
  | _ => none

lemma cutAtBlank_fst (t : Text) : (cutAtBlank t).1 = t.takeWhile (fun c => !isBlank c) := by
  induction t with
  | nil => rfl
  | cons c cs ih =>
      rw [cutAtBlank]
      cases hc : isBlank c with
      | true => simp [hc]
      | false => simp [hc, ih]

/-- The blank character at the cut makes no difference once the rest is trimmed. -/
lemma cutAtBlank_snd (t : Text) :
    ((cutAtBlank t).2.map trim).filter (· ≠ []) =
      if trim (t.dropWhile fun c => !isBlank c) = [] then none
      else some (trim (t.dropWhile fun c => !isBlank c)) := by
  induction t with
  | nil => rfl
  | cons c cs ih =>
      rw [cutAtBlank]
      cases hc : isBlank c with
      | true =>
          have hstart : trimStart (c :: cs) = trimStart cs :=
            List.dropWhile_cons_of_pos hc
          simp [hc, trim, hstart, Option.filter]
      | false => simpa [hc] using ih

/-- **Any lowering reads the same calls.** -/
theorem parseIn?_eq (l : Lowering) (input : Text) : parseIn? l input = parse? input := by
  simp only [parseIn?, cutAtBlank_fst, cutAtBlank_snd, l.find?_names]
  rfl

/-! ## What is read -/

lemma Parts.argument?_eq {call name rest : Text} (h : Parts call name rest)
    (hcall : Trimmed call) :
    (if trim rest = [] then none else some (trim rest)) = argument? rest := by
  by_cases hne : rest = []
  · subst hne
    rfl
  · rw [argument?, if_neg (h.argument hcall hne).1, if_neg hne]

/-- What is read of a call that has these parts. -/
lemma parse?_of_parts {input name rest : Text} (h : Parts (trim input) name rest) :
    parse? input = (ofName? name).map fun command => ⟨command, argument? rest⟩ := by
  have hargument := h.argument?_eq (trimmed_trim input)
  obtain ⟨body, hbody, rfl, rfl⟩ := parts_iff.mp h
  rw [parse?, hbody]
  simp only [hargument]

/-- Only a text with a dot in front has parts, and only such a text is read. -/
lemma exists_parts_of_parse? {input : Text} {call : Call} (h : parse? input = some call) :
    ∃ name rest, Parts (trim input) name rest := by
  unfold parse? at h
  split at h
  case h_1 body hbody => exact ⟨_, _, parts_iff.mpr ⟨body, hbody, rfl, rfl⟩⟩
  case h_2 => cases h

/-- Blank characters at the ends of a text make no difference. -/
lemma parse?_trim (input : Text) : parse? (trim input) = parse? input := by
  rw [parse?, trim_trim, parse?]

/-- **The grammar of calls.**  A text is read as a call exactly if, trimmed, it is a dot, a name of
    the command in upper or lower case, and a rest that starts with a blank character if it is not
    empty; without a rest there is no argument, and otherwise the trimmed rest is the argument.  It
    is not empty, has no blank character at its ends, and is all of the rest behind a gap.  Trimming
    removes the blank characters at the ends of a text and nothing else.  With any lowering that is
    right for ASCII and takes no foreign character for letters of a name, the same is read. -/
theorem parse_iff_parts (input : Text) :
    (∀ call, parse? input = some call ↔ ∃ name rest, Parts (trim input) name rest ∧
        name.map Char.toLower ∈ call.command.names ∧ call.argument = argument? rest) ∧
      (∀ name rest, Parts (trim input) name rest → rest ≠ [] →
        trim rest ≠ [] ∧ Trimmed (trim rest) ∧ ∃ gap, Blank gap ∧ rest = gap ++ trim rest) ∧
      (Trimmed (trim input) ∧ ∃ p q, Blank p ∧ Blank q ∧ input = p ++ trim input ++ q) ∧
      ∀ lowering : Lowering, parseIn? lowering input = parse? input := by
  refine ⟨fun call => ⟨fun h => ?_, ?_⟩, fun name rest h hne => ?_, trim_eq_iff.mp rfl,
    fun lowering => parseIn?_eq lowering input⟩
  · obtain ⟨name, rest, hparts⟩ := exists_parts_of_parse? h
    rw [parse?_of_parts hparts] at h
    obtain ⟨command, hcommand, rfl⟩ := Option.map_eq_some_iff.mp h
    exact ⟨name, rest, hparts, find?_names_eq_some_iff.mp hcommand, rfl⟩
  · rintro ⟨name, rest, hparts, hname, hargument⟩
    have hcommand : ofName? name = some call.command := find?_names_eq_some_iff.mpr hname
    rw [parse?_of_parts hparts, hcommand, ← hargument]
    rfl
  · exact h.argument (trimmed_trim input) hne

/-- An ideographic space ends the name, and the no-break space in the argument stays.  A name with a
    Kelvin sign is no name. -/
theorem parse_iff_parts_spaces :
    Parts (trim "\t.LOAD\u3000 a\u00A0b\n".toList) "LOAD".toList "\u3000 a\u00A0b".toList ∧
      parse? "\t.LOAD\u3000 a\u00A0b\n".toList = some ⟨.load, some "a\u00A0b".toList⟩ ∧
      trim "\u3000 a\u00A0b".toList ≠ [] ∧
      parseIn? .kelvin ".\u212A".toList = parse? ".\u212A".toList := by
  have hparts : Parts (trim "\t.LOAD\u3000 a\u00A0b\n".toList) "LOAD".toList
      "\u3000 a\u00A0b".toList :=
    parts_iff.mpr ⟨"LOAD\u3000 a\u00A0b".toList, by decide, by decide, by decide⟩
  obtain ⟨hiff, hargument, -, -⟩ := parse_iff_parts "\t.LOAD\u3000 a\u00A0b\n".toList
  obtain ⟨-, -, -, hkelvin⟩ := parse_iff_parts ".\u212A".toList
  exact ⟨hparts, (hiff _).mpr ⟨_, _, hparts, by decide, by decide⟩,
    (hargument _ _ hparts (by decide)).1, hkelvin .kelvin⟩

end Command

end MonkeyTokens
