/-!
# ReportRules.Formula.Token -- the pieces of a formula

A formula is written with six symbols and operands. A `Token` is one of them; what an operand is
stays open. The scanner makes tokens whose operands are still text (`Operand`), and resolving these
against a record makes tokens whose operands are doubles. Symbols pass through unchanged, so no
value of a record can ever become one.
-/

namespace ReportRules.Formula

/-- The symbols of formulas. -/
inductive Symbol
  | plus
  | minus
  | times
  | divide
  | opening
  | closing
  deriving Repr, DecidableEq

/-- The character of a symbol. -/
def Symbol.char : Symbol → Char
  | .plus => '+'
  | .minus => '-'
  | .times => '*'
  | .divide => '/'
  | .opening => '('
  | .closing => ')'

/-- The symbol that a character writes. -/
def Symbol.ofChar? (c : Char) : Option Symbol :=
  [Symbol.plus, .minus, .times, .divide, .opening, .closing].find? fun s => s.char == c

/-- A symbol or an operand. -/
inductive Token (α : Type)
  | symbol (s : Symbol)
  | operand (a : α)
  deriving Repr, DecidableEq

/-- An operand as it is written. -/
inductive Operand
  /-- A run of figures and points. -/
  | literal (run : List Char)
  /-- The name of a field, between braces. -/
  | placeholder (name : List Char)
  deriving Repr, DecidableEq

end ReportRules.Formula
