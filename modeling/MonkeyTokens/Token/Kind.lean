import MonkeyTokens.Text.Utf8

/-!
# Kinds of tokens

The catalog of the Monkey language: what a token can be, how each kind with a fixed spelling is
written, and the name under which a dump shows it.

* `Keyword`, `Operator`, `Separator`, `Bracket` — the kinds with one spelling each;
* `Kind` — these, and the kinds whose text varies: identifiers, integers, illegal characters and
  the end of the input;
* `Kind.symbol?`, `Kind.name` — spelling and catalog name;
* `Keyword.ofText?`, `Kind.ofCharacter?` — the way back from a spelling.
-/

namespace MonkeyTokens

/-- The reserved words. -/
inductive Keyword where
  | fn
  | let_
  | true_
  | false_
  | if_
  | else_
  | return_
  deriving DecidableEq, Repr

/-- Assignment, arithmetic, negation and comparison. -/
inductive Operator where
  | assign
  | plus
  | minus
  | bang
  | asterisk
  | slash
  | lessThan
  | greaterThan
  | equal
  | notEqual
  deriving DecidableEq, Repr

/-- What stands between items and statements. -/
inductive Separator where
  | comma
  | semicolon
  deriving DecidableEq, Repr

/-- Parentheses and braces. -/
inductive Bracket where
  | leftParen
  | rightParen
  | leftBrace
  | rightBrace
  deriving DecidableEq, Repr

/-- What a token is. -/
inductive Kind where
  /-- The end of the input. -/
  | eof
  /-- One character that starts no other token. -/
  | illegal
  | identifier
  | integer
  | operator (o : Operator)
  | separator (s : Separator)
  | bracket (b : Bracket)
  | keyword (k : Keyword)
  deriving DecidableEq, Repr

/-! ## Spellings -/

/-- How a reserved word is written. -/
def Keyword.spelling : Keyword → Text
  | .fn => "fn".toList
  | .let_ => "let".toList
  | .true_ => "true".toList
  | .false_ => "false".toList
  | .if_ => "if".toList
  | .else_ => "else".toList
  | .return_ => "return".toList

/-- How an operator is written. -/
def Operator.spelling : Operator → Text
  | .assign => ['=']
  | .plus => ['+']
  | .minus => ['-']
  | .bang => ['!']
  | .asterisk => ['*']
  | .slash => ['/']
  | .lessThan => ['<']
  | .greaterThan => ['>']
  | .equal => ['=', '=']
  | .notEqual => ['!', '=']

/-- How a separator is written. -/
def Separator.spelling : Separator → Text
  | .comma => [',']
  | .semicolon => [';']

/-- How a bracket is written. -/
def Bracket.spelling : Bracket → Text
  | .leftParen => ['(']
  | .rightParen => [')']
  | .leftBrace => ['{']
  | .rightBrace => ['}']

/-- The one spelling of a kind.  Identifiers, integers, illegal characters and the end of the
    input have none. -/
def Kind.symbol? : Kind → Option Text
  | .eof | .illegal | .identifier | .integer => none
  | .operator o => some o.spelling
  | .separator s => some s.spelling
  | .bracket b => some b.spelling
  | .keyword k => some k.spelling

/-- The catalog name of a reserved word. -/
def Keyword.name : Keyword → Text
  | .fn => "FUNCTION".toList
  | .let_ => "LET".toList
  | .true_ => "TRUE".toList
  | .false_ => "FALSE".toList
  | .if_ => "IF".toList
  | .else_ => "ELSE".toList
  | .return_ => "RETURN".toList

/-- The catalog name of a kind.  Operators, separators and brackets go by their spelling. -/
def Kind.name : Kind → Text
  | .eof => "EOF".toList
  | .illegal => "ILLEGAL".toList
  | .identifier => "IDENT".toList
  | .integer => "INT".toList
  | .operator o => o.spelling
  | .separator s => s.spelling
  | .bracket b => b.spelling
  | .keyword k => k.name

/-! ## Classes -/

/-- A reserved word. -/
def Kind.isKeyword : Kind → Bool
  | .keyword _ => true
  | _ => false

/-- An operator. -/
def Kind.isOperator : Kind → Bool
  | .operator _ => true
  | _ => false

/-- A kind whose tokens denote a value: integers and the two truth values. -/
def Kind.isLiteral : Kind → Bool
  | .integer | .keyword .true_ | .keyword .false_ => true
  | _ => false

/-! ## From a spelling to its kind -/

/-- Every reserved word, in catalog order. -/
def Keyword.all : List Keyword :=
  [.fn, .let_, .true_, .false_, .if_, .else_, .return_]

/-- The reserved word with exactly this spelling; upper and lower case differ. -/
def Keyword.ofText? (t : Text) : Option Keyword :=
  Keyword.all.find? fun k => k.spelling = t

/-- **Reading a reserved word undoes writing it, and reads nothing else.** -/
theorem Keyword.ofText?_eq_some_iff {t : Text} {k : Keyword} :
    Keyword.ofText? t = some k ↔ t = k.spelling := by
  constructor
  · intro h
    have := List.find?_some h
    simpa using (of_decide_eq_true this).symm
  · rintro rfl
    cases k <;> decide

/-- The kind of a token that is one character long and never longer. -/
def Kind.ofCharacter? : Char → Option Kind
  | '+' => some (.operator .plus)
  | '-' => some (.operator .minus)
  | '*' => some (.operator .asterisk)
  | '/' => some (.operator .slash)
  | '<' => some (.operator .lessThan)
  | '>' => some (.operator .greaterThan)
  | ',' => some (.separator .comma)
  | ';' => some (.separator .semicolon)
  | '(' => some (.bracket .leftParen)
  | ')' => some (.bracket .rightParen)
  | '{' => some (.bracket .leftBrace)
  | '}' => some (.bracket .rightBrace)
  | _ => none

/-- The kind of a word: the reserved word it spells, or else an identifier. -/
def Kind.ofWord (t : Text) : Kind :=
  match Keyword.ofText? t with
  | some k => .keyword k
  | none => .identifier

end MonkeyTokens
