import ReportRules.Formula.Token

/-!
# ReportRules.Formula.Expr -- arithmetic expressions

The tree of a formula. Parentheses and unary plus signs have nodes of their own although they
change no value: a tree thereby knows the tokens it was written with.
-/

namespace ReportRules.Formula

variable {α : Type}

/-- The operations between two operands. -/
inductive Operation
  | add
  | subtract
  | multiply
  | divide
  deriving Repr, DecidableEq

/-- The result of an operation on doubles. -/
def Operation.apply : Operation → Float → Float → Float
  | .add, x, y => x + y
  | .subtract, x, y => x - y
  | .multiply, x, y => x * y
  | .divide, x, y => x / y

/-- The operation that a symbol stands for between the terms of a sum. -/
def Operation.ofSum? : Symbol → Option Operation
  | .plus => some .add
  | .minus => some .subtract
  | _ => none

/-- The operation that a symbol stands for between the factors of a product. -/
def Operation.ofProduct? : Symbol → Option Operation
  | .times => some .multiply
  | .divide => some .divide
  | _ => none

/-- An arithmetic expression over operands. -/
inductive Expr (α : Type)
  | number (a : α)
  | negate (e : Expr α)
  | affirm (e : Expr α)
  | group (e : Expr α)
  | binary (operation : Operation) (left right : Expr α)
  deriving Repr, DecidableEq

/-- The value of an expression over doubles. -/
def Expr.value : Expr Float → Float
  | .number x => x
  | .negate e => -e.value
  | .affirm e => e.value
  | .group e => e.value
  | .binary operation left right => operation.apply left.value right.value

end ReportRules.Formula
