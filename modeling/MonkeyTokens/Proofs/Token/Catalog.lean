import MonkeyTokens.Token.Kind
import Mathlib.Data.List.Nodup

/-!
# The catalog of kinds

A dump shows a kind by its name.  That is enough to tell the kind, and a name looks the same
wherever it is shown.

* `Kind.all` — every kind;
* `Kind.name_injective` — no two kinds have the same name;
* `Kind.graphic_of_mem_name` — a name is made of the ASCII characters that can be seen.
-/

namespace MonkeyTokens.Kind

/-- Every kind, in catalog order. -/
def all : List Kind :=
  [ .eof, .illegal, .identifier, .integer,
    .operator .assign, .operator .plus, .operator .minus, .operator .bang, .operator .asterisk,
    .operator .slash, .operator .lessThan, .operator .greaterThan, .operator .equal,
    .operator .notEqual,
    .separator .comma, .separator .semicolon,
    .bracket .leftParen, .bracket .rightParen, .bracket .leftBrace, .bracket .rightBrace,
    .keyword .fn, .keyword .let_, .keyword .true_, .keyword .false_, .keyword .if_,
    .keyword .else_, .keyword .return_ ]

lemma mem_all (k : Kind) : k ∈ all := by
  cases k with
  | eof | illegal | identifier | integer => decide
  | operator o => cases o <;> decide
  | separator s => cases s <;> decide
  | bracket b => cases b <;> decide
  | keyword w => cases w <;> decide

/-- **A name tells its kind.** -/
theorem name_injective : Function.Injective name := by
  have hnodup : (all.map name).Nodup := by decide
  exact fun j k h => List.inj_on_of_nodup_map hnodup (mem_all j) (mem_all k) h

/-- Names are made of the ASCII characters that can be seen. -/
lemma graphic_of_mem_name {k : Kind} {c : Char} (hc : c ∈ k.name) : '!' ≤ c ∧ c ≤ '~' := by
  have hall : ∀ k ∈ all, k.name.all (fun c => '!' ≤ c ∧ c ≤ '~') = true := by decide
  simpa using List.all_eq_true.mp (hall k (mem_all k)) c hc

lemma notMem_name {c : Char} (hc : c < '!') (k : Kind) : c ∉ k.name :=
  fun h => absurd (graphic_of_mem_name h).1 (by simpa using hc)

end MonkeyTokens.Kind
