import ReportRules.Formula.Expr

/-!
# ReportRules.Formula.Parser -- expressions read from tokens

The grammar, from the loosest binding to the tightest:

* an expression is a sum of terms, a term is a product of signed operands, and both associate to
  the left;
* a signed operand is a sign and a signed operand, or a primary;
* a primary is an operand, or an expression in parentheses.

A sign and an opening parenthesis begin a nested part, and only so many parts may be open at a time:
`maxNesting` for `parse`, any `bound` for the functions it is made of. The number of open parts is
kept in the `Cursor` and is the same after a part as before it, whether or not the part could be
read.

Parsing never looks at an operand, so expressions are read the same way whatever the operands are.
Each nested part begins after a token of its own, so the number of tokens bounds the recursion; it
is the `budget` of `signed`.
-/

namespace ReportRules.Formula

variable {α : Type}

/-- The number of nested parts that may be open at a time. -/
def maxNesting : Nat :=
  32

/-- Why tokens are not an expression. -/
inductive Refusal (α : Type)
  | unexpectedToken (t : Token α)
  | unexpectedEnd
  | tooDeep
  deriving Repr, DecidableEq

/-- A place in a token list: the tokens that follow, and the number of open parts. -/
structure Cursor (α : Type) where
  rest : List (Token α)
  depth : Nat
  deriving Repr, DecidableEq

/-- The cursor behind the next token, given the tokens after it. -/
def Cursor.past (c : Cursor α) (rest : List (Token α)) : Cursor α :=
  { c with rest }

/-- The result of reading a part, and the cursor at which reading stopped. -/
structure Outcome (α : Type) where
  result : Except (Refusal α) (Expr α)
  cursor : Cursor α

/-- Something that reads one part. -/
abbrev Parser (α : Type) :=
  Cursor α → Outcome α

/-- A part that cannot be read. -/
def refuse (reason : Refusal α) (c : Cursor α) : Outcome α :=
  ⟨.error reason, c⟩

/-- Go on with the expression that was read, if one was. -/
def Outcome.andThen (o : Outcome α) (next : Expr α → Parser α) : Outcome α :=
  match o.result with
  | .ok e => next e o.cursor
  | .error _ => o

/-- Wrap the expression that was read, if one was. -/
def Outcome.map (o : Outcome α) (f : Expr α → Expr α) : Outcome α :=
  { o with result := o.result.map f }

/-- Read a nested part, which is open while `inner` reads it. -/
def nested (bound : Nat) (inner : Parser α) : Parser α := fun c =>
  if c.depth < bound then
    let o := inner { c with depth := c.depth + 1 }
    { o with cursor := { o.cursor with depth := o.cursor.depth - 1 } }
  else refuse .tooDeep c

/-- Go on behind an operand: while an operator of the level follows, read one more operand. At most
`limit` operators are read. -/
def chainFrom (operation? : Symbol → Option Operation) (operand : Parser α) :
    Nat → Expr α → Parser α
  | 0, left, c => ⟨.ok left, c⟩
  | limit + 1, left, c =>
    match c.rest with
    | .symbol s :: rest =>
      match operation? s with
      | some operation =>
        (operand (c.past rest)).andThen fun right after =>
          chainFrom operation? operand limit (.binary operation left right) after
      | none => ⟨.ok left, c⟩
    | _ => ⟨.ok left, c⟩

/-- Read operands with the operators of one level between them. -/
def chain (operation? : Symbol → Option Operation) (operand : Parser α) : Parser α := fun c =>
  (operand c).andThen fun left after =>
    chainFrom operation? operand after.rest.length left after

/-- Read a sum of products, given how to read a signed operand. -/
def sum (operand : Parser α) : Parser α :=
  chain Operation.ofSum? (chain Operation.ofProduct? operand)

/-- Read the parenthesis that closes a group. -/
def closeGroup (e : Expr α) : Parser α := fun c =>
  match c.rest with
  | .symbol .closing :: rest => ⟨.ok (.group e), c.past rest⟩
  | t :: rest => refuse (.unexpectedToken t) (c.past rest)
  | [] => refuse .unexpectedEnd c

/-- Read a primary, given how to read the inside of parentheses. -/
def primary (bound : Nat) (inner : Parser α) : Parser α := fun c =>
  match c.rest with
  | .operand a :: rest => ⟨.ok (.number a), c.past rest⟩
  | .symbol .opening :: rest => (nested bound inner (c.past rest)).andThen closeGroup
  | t :: rest => refuse (.unexpectedToken t) (c.past rest)
  | [] => refuse .unexpectedEnd c

/-- Read a signed operand. A budget of at least the number of tokens that follow is never used up
before the tokens are. -/
def signed (bound budget : Nat) : Parser α := fun c =>
  match budget with
  | 0 => refuse .unexpectedEnd c
  | budget + 1 =>
    match c.rest with
    | .symbol .minus :: rest => (nested bound (signed bound budget) (c.past rest)).map .negate
    | .symbol .plus :: rest => (nested bound (signed bound budget) (c.past rest)).map .affirm
    | _ => primary bound (sum (signed bound budget)) c

/-- Read an expression. -/
def expression (bound : Nat) : Parser α := fun c =>
  sum (signed bound c.rest.length) c

/-- The expression that a whole token list writes, with at most `bound` parts open at a time. -/
def parseWithin (bound : Nat) (tokens : List (Token α)) : Except (Refusal α) (Expr α) :=
  let o := expression bound ⟨tokens, 0⟩
  match o.result, o.cursor.rest with
  | .ok e, [] => .ok e
  | .ok _, t :: _ => .error (.unexpectedToken t)
  | .error reason, _ => .error reason

/-- The expression that a formula's tokens write. -/
def parse (tokens : List (Token α)) : Except (Refusal α) (Expr α) :=
  parseWithin maxNesting tokens

end ReportRules.Formula
