import Mathlib.Logic.ExistsUnique
import ReportRules.Formula.Expr

/-!
# ReportRules.Proofs.Formula.Grammar -- the grammar of formulas

    expression  =  term { ("+" | "-") term }
    term        =  unary { ("*" | "/") unary }
    unary       =  ("-" | "+") unary  |  primary
    primary     =  number  |  "(" expression ")"

`Derives` is this grammar together with the tree that a derivation builds. The repetitions are
written as left recursions, so that operators of one level group to the left.

The grammar says nothing about a parser and has no bound on nesting. How deep a tree nests is
`Expr.nesting`. What a tree over doubles is worth is `Expr.HasValue`, with a rule for every
operation.
-/

namespace ReportRules.Formula

variable {α : Type}

/-- The parts of the grammar, from the loosest binding to the tightest. -/
inductive Level
  | expression
  | term
  | unary
  | primary
  deriving Repr, DecidableEq

/-- The symbols between the operands of a part, and the operation that each stands for there. -/
inductive OperatorOf : Level → Symbol → Operation → Prop
  | plus : OperatorOf .expression .plus .add
  | minus : OperatorOf .expression .minus .subtract
  | times : OperatorOf .term .times .multiply
  | divide : OperatorOf .term .divide .divide

/-- The token lists of each part, and the tree that each list writes. -/
inductive Derives : Level → List (Token α) → Expr α → Prop
  | number (a : α) : Derives .primary [.operand a] (.number a)
  | group {ts : List (Token α)} {e : Expr α} (inner : Derives .expression ts e) :
      Derives .primary (.symbol .opening :: (ts ++ [.symbol .closing])) (.group e)
  | primary {ts : List (Token α)} {e : Expr α} (h : Derives .primary ts e) : Derives .unary ts e
  | negate {ts : List (Token α)} {e : Expr α} (h : Derives .unary ts e) :
      Derives .unary (.symbol .minus :: ts) (.negate e)
  | affirm {ts : List (Token α)} {e : Expr α} (h : Derives .unary ts e) :
      Derives .unary (.symbol .plus :: ts) (.affirm e)
  | unary {ts : List (Token α)} {e : Expr α} (h : Derives .unary ts e) : Derives .term ts e
  | product {ts us : List (Token α)} {e f : Expr α} {s : Symbol} {operation : Operation}
      (left : Derives .term ts e) (operator : OperatorOf .term s operation)
      (right : Derives .unary us f) :
      Derives .term (ts ++ .symbol s :: us) (.binary operation e f)
  | term {ts : List (Token α)} {e : Expr α} (h : Derives .term ts e) : Derives .expression ts e
  | sum {ts us : List (Token α)} {e f : Expr α} {s : Symbol} {operation : Operation}
      (left : Derives .expression ts e) (operator : OperatorOf .expression s operation)
      (right : Derives .term us f) :
      Derives .expression (ts ++ .symbol s :: us) (.binary operation e f)

/-- A token list is a sentence of the grammar and writes a tree. -/
abbrev Sentence (tokens : List (Token α)) (e : Expr α) : Prop :=
  Derives .expression tokens e

/-- The greatest number of parentheses and signs, counted together, that are around a number. -/
def Expr.nesting : Expr α → Nat
  | .number _ => 0
  | .negate e => e.nesting + 1
  | .affirm e => e.nesting + 1
  | .group e => e.nesting + 1
  | .binary _ left right => max left.nesting right.nesting

/-- The values that trees have. Each operation is that of doubles; a plus sign and parentheses
around a part change nothing. -/
inductive Expr.HasValue : Expr Float → Float → Prop
  | number (x : Float) : HasValue (.number x) x
  | negate {e : Expr Float} {x : Float} (h : HasValue e x) : HasValue (.negate e) (-x)
  | affirm {e : Expr Float} {x : Float} (h : HasValue e x) : HasValue (.affirm e) x
  | group {e : Expr Float} {x : Float} (h : HasValue e x) : HasValue (.group e) x
  | add {e f : Expr Float} {x y : Float} (left : HasValue e x) (right : HasValue f y) :
      HasValue (.binary .add e f) (x + y)
  | subtract {e f : Expr Float} {x y : Float} (left : HasValue e x) (right : HasValue f y) :
      HasValue (.binary .subtract e f) (x - y)
  | multiply {e f : Expr Float} {x y : Float} (left : HasValue e x) (right : HasValue f y) :
      HasValue (.binary .multiply e f) (x * y)
  | divide {e f : Expr Float} {x y : Float} (left : HasValue e x) (right : HasValue f y) :
      HasValue (.binary .divide e f) (x / y)

namespace Operation

variable {s : Symbol} {operation : Operation}

theorem ofSum?_eq_some_iff : ofSum? s = some operation ↔ OperatorOf .expression s operation := by
  constructor
  · intro h
    cases s <;> cases h
    · exact .plus
    · exact .minus
  · intro h
    cases h <;> rfl

theorem ofProduct?_eq_some_iff : ofProduct? s = some operation ↔ OperatorOf .term s operation := by
  constructor
  · intro h
    cases s <;> cases h
    · exact .times
    · exact .divide
  · intro h
    cases h <;> rfl

/-- The operator of a sum is none of a product. -/
theorem ofProduct?_eq_none_of_sum (h : OperatorOf .expression s operation) :
    ofProduct? s = none := by
  cases h <;> rfl

end Operation

namespace Expr

variable {e : Expr Float} {x : Float}

/-- Every tree has a value: the one that is computed for it. -/
theorem hasValue_value (e : Expr Float) : e.HasValue e.value := by
  induction e with
  | number x => exact .number x
  | negate e ih => exact .negate ih
  | affirm e ih => exact .affirm ih
  | group e ih => exact .group ih
  | binary operation left right ihl ihr =>
    cases operation with
    | add => exact .add ihl ihr
    | subtract => exact .subtract ihl ihr
    | multiply => exact .multiply ihl ihr
    | divide => exact .divide ihl ihr

theorem HasValue.value_eq (h : e.HasValue x) : e.value = x := by
  induction h with
  | number x => rfl
  | negate _ ih | affirm _ ih | group _ ih => simp only [value, ih]
  | add _ _ ihl ihr | subtract _ _ ihl ihr | multiply _ _ ihl ihr | divide _ _ ihl ihr =>
    simp only [value, Operation.apply, ihl, ihr]

theorem hasValue_iff : e.HasValue x ↔ e.value = x := by
  constructor
  · exact HasValue.value_eq
  · rintro rfl
    exact hasValue_value e

/-- A tree has one value. -/
theorem existsUnique_hasValue (e : Expr Float) : ∃! x, e.HasValue x :=
  ⟨e.value, hasValue_value e, fun _ h => h.value_eq.symm⟩

end Expr

end ReportRules.Formula
