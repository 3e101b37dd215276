import MonkeyTokens.Text.Line
import Mathlib.Data.List.Basic

/-!
# Texts as bytes, and their lines

Input is cut into lines as bytes and decoded line by line.  For a text that is the same as cutting
the text itself.

* `Text.decode?_encode`, `Text.encode_injective` — a text is known from its bytes;
* `Text.eq_newline_of_mem` — the byte of a line feed is in no other character;
* `textLines` — the lines of a text, and **`rawLines_encode`**: its bytes have the same lines;
* `textLines_append` — after a line feed, or at the start, lines are cut anew;
* `textLines_flatMap` — lines that are written one after the other are the lines that are read;
* `Line.body_ofText_line` — what stands in a line that was written.
-/

namespace MonkeyTokens

namespace Text

/-- **Decoding undoes encoding.** -/
theorem decode?_encode (t : Text) : decode? t.encode = some t := by
  have hbytes : (⟨t.encode.toArray⟩ : ByteArray) = (String.ofList t).toByteArray := by
    rw [String.toByteArray_ofList, List.utf8Encode, ByteArray.ext_iff, List.data_toByteArray]
    rfl
  have hvalid : (String.ofList t).toByteArray.IsValidUTF8 := (String.ofList t).isValidUTF8
  rw [decode?, hbytes, String.fromUTF8?, dif_pos hvalid]
  exact congrArg some String.toList_ofList

/-- Texts with the same bytes are the same. -/
lemma encode_injective : Function.Injective encode := by
  intro a b h
  have hdecode := congrArg decode? h
  rw [decode?_encode, decode?_encode] at hdecode
  exact Option.some.inj hdecode

/-- The byte of a line feed is in no other character. -/
lemma eq_newline_of_mem {c : Char} (h : (10 : UInt8) ∈ String.utf8EncodeChar c) : c = '\n' := by
  have hbyte : ∀ n : Nat, (10 : UInt8) = UInt8.ofNat n → n % 256 = 10 := by
    intro n hn
    simpa using (congrArg UInt8.toNat hn).symm
  simp only [String.utf8EncodeChar] at h
  split_ifs at h with h1 h2 h3
  · have hval := hbyte _ (List.mem_singleton.mp h)
    refine Char.ext (UInt32.toNat_inj.mp ?_)
    have hten : c.val.toNat = 10 := by omega
    exact hten
  -- the bytes of a longer character are all above those of ASCII
  all_goals simp only [List.mem_cons, List.not_mem_nil, or_false] at h
  · rcases h with h | h <;> have := hbyte _ h <;> omega
  · rcases h with h | h | h <;> have := hbyte _ h <;> omega
  · rcases h with h | h | h | h <;> have := hbyte _ h <;> omega

end Text

/-! ## Lines -/

open Text

/-- The lines of a text, each with its line feed. -/
def textLines : Text → List Text
  | [] => []
  | c :: cs =>
    if c = '\n' then [c] :: textLines cs
    else
      match textLines cs with
      | [] => [[c]]
      | line :: lines => (c :: line) :: lines

/-- Cutting a text into lines loses nothing. -/
lemma flatten_textLines (t : Text) : (textLines t).flatten = t := by
  induction t with
  | nil => rfl
  | cons c cs ih =>
      unfold textLines
      split
      · simp [ih]
      · split <;> simp_all

/-- A character that is not in a text is in none of its lines. -/
lemma notMem_of_mem_textLines {t : Text} {c : Char} (h : c ∉ t) :
    ∀ line ∈ textLines t, c ∉ line := by
  intro line hline hc
  rw [← flatten_textLines t] at h
  exact h (List.mem_flatten.mpr ⟨line, hline, hc⟩)

/-- Bytes without a line feed belong to the line that follows. -/
lemma rawLines_append_of_notMem {bytes : List UInt8} (hne : bytes ≠ []) (h : 10 ∉ bytes)
    (rest : List UInt8) :
    rawLines (bytes ++ rest) =
      match rawLines rest with
      | [] => [bytes]
      | line :: lines => (bytes ++ line) :: lines := by
  induction bytes with
  | nil => exact absurd rfl hne
  | cons b bs ih =>
      have hb : b ≠ 10 := fun hb => h (by simp [hb])
      have hbs : 10 ∉ bs := fun hbs => h (by simp [hbs])
      rw [List.cons_append, rawLines, if_neg hb]
      by_cases hnil : bs = []
      · rw [hnil, List.nil_append]
        cases rawLines rest <;> rfl
      · rw [ih hnil hbs]
        cases rawLines rest <;> rfl

/-- **The bytes of a text have its lines.** -/
theorem rawLines_encode (t : Text) : rawLines t.encode = (textLines t).map encode := by
  induction t with
  | nil => rfl
  | cons c cs ih =>
      have hcons : encode (c :: cs) = String.utf8EncodeChar c ++ encode cs := rfl
      rw [hcons, textLines]
      by_cases hc : c = '\n'
      · subst hc
        have hbyte : String.utf8EncodeChar '\n' = [10] := by decide
        rw [hbyte, List.singleton_append, rawLines, if_pos rfl, if_pos rfl, List.map_cons, ih]
        rfl
      · have hne : String.utf8EncodeChar c ≠ [] := String.utf8EncodeChar_ne_nil
        have hno : (10 : UInt8) ∉ String.utf8EncodeChar c := fun h => hc (eq_newline_of_mem h)
        rw [rawLines_append_of_notMem hne hno, ih, if_neg hc]
        cases textLines cs with
        | nil => simp [encode]
        | cons line lines => simp [encode]

/-- After a line feed, and at the start, lines are cut anew. -/
theorem textLines_append {a : Text} (ha : a = [] ∨ a.getLast? = some '\n') (b : Text) :
    textLines (a ++ b) = textLines a ++ textLines b := by
  induction a with
  | nil => rfl
  | cons c cs ih =>
      have hlast : (c :: cs).getLast? = some '\n' := by
        rcases ha with ha | ha
        · exact absurd ha (by simp)
        · exact ha
      have hcs : cs = [] ∨ cs.getLast? = some '\n' := by
        cases cs with
        | nil => exact .inl rfl
        | cons d ds => exact .inr (by rwa [List.getLast?_cons_cons] at hlast)
      rw [List.cons_append, textLines, textLines, ih hcs]
      by_cases hc : c = '\n'
      · rw [if_pos hc, if_pos hc, List.cons_append]
      · rw [if_neg hc, if_neg hc]
        cases hlines : textLines cs with
        | cons line lines => rfl
        | nil =>
            -- a text without lines is empty, and then `c` would be the last character
            have hempty : cs = [] := by rw [← flatten_textLines cs, hlines, List.flatten_nil]
            rw [hempty] at hlast
            exact absurd (by simpa using hlast) hc

/-- A text without a line feed is one line with the line feed that follows it. -/
lemma textLines_line {line : Text} (h : '\n' ∉ line) :
    textLines (line ++ ['\n']) = [line ++ ['\n']] := by
  induction line with
  | nil => rfl
  | cons c cs ih =>
      have hc : c ≠ '\n' := fun hc => h (by simp [hc])
      have hcs : '\n' ∉ cs := fun hcs => h (by simp [hcs])
      rw [List.cons_append, textLines, if_neg hc, ih hcs]

/-- **Lines that are written are read again.** -/
lemma textLines_flatMap {lines : List Text} (h : ∀ line ∈ lines, '\n' ∉ line) :
    textLines (lines.flatMap (· ++ ['\n'])) = lines.map (· ++ ['\n']) := by
  induction lines with
  | nil => rfl
  | cons line lines ih =>
      have hline : '\n' ∉ line := h line List.mem_cons_self
      have hlines : ∀ line ∈ lines, '\n' ∉ line :=
        fun line hmem => h line (List.mem_cons_of_mem _ hmem)
      rw [List.flatMap_cons, textLines_append (.inr (by simp)), textLines_line hline, ih hlines]
      rfl

/-! ## A line and its ending -/

/-- What stands in a line is what was written before the line feed, unless that ended in a carriage
    return. -/
lemma Line.body_ofText_line {line : Text} (h : line.getLast? ≠ some '\r') :
    (Line.ofText (line ++ ['\n'])).body = line := by
  have hreverse : line.reverse.head? ≠ some '\r' := by rwa [List.head?_reverse]
  rw [Line.ofText, List.reverse_append, List.reverse_singleton, List.singleton_append]
  split
  · next rest heq =>
      have hhead : line.reverse.head? = some '\r' := by
        rw [(List.cons.inj heq).2, List.head?_cons]
      exact absurd hhead hreverse
  · next rest _ heq => rw [← (List.cons.inj heq).2, List.reverse_reverse]
  · next hother => exact absurd rfl (hother line.reverse)

end MonkeyTokens
