import ReportRules.Condition.Reading
import ReportRules.Formula.Parser
import ReportRules.Formula.Scan

/-!
# ReportRules.Formula.Evaluate -- the value of a formula on a job

Evaluating a formula scans it, resolves its operands against the job's record from left to right,
reads the resolved tokens as an expression and computes with doubles. Faults of scanning and of
operands come before faults of the expression, wherever they are in the text.
-/

namespace ReportRules.Formula

/-- Why a formula has no value. -/
inductive FormulaError
  /-- The record lacks the field of a placeholder. -/
  | unresolvedPlaceholder (name : String)
  /-- The field of a placeholder holds no finite number. -/
  | nonNumericPlaceholder (name : String)
  | unterminatedPlaceholder (offset : Nat)
  | invalidNumber (literal : String)
  | unexpectedCharacter (found : Char) (offset : Nat)
  | unexpectedToken (t : Token Float)
  | unexpectedEnd
  | tooDeep
  | nonFinite
  deriving DecidableEq

/-- A token in words. -/
def Token.phrase : Token Float → String
  | .symbol s => String.ofList ['\'', s.char, '\'']
  | .operand x => "number " ++ Decimal.Layout.plain.text x

/-- A name with its braces. -/
def placeholderText (name : String) : String :=
  String.ofList [nameOpening] ++ name ++ String.ofList [nameClosing]

namespace FormulaError

/-- The sentence that reports an error. -/
def message : FormulaError → String
  | .unresolvedPlaceholder name =>
    "placeholder " ++ placeholderText name ++ " has no value in the job record"
  | .nonNumericPlaceholder name =>
    "placeholder " ++ placeholderText name ++ " does not hold a number"
  | .unterminatedPlaceholder offset =>
    "unterminated placeholder starting at offset " ++ Text.natText offset
  | .invalidNumber literal => "invalid number literal '" ++ literal ++ "'"
  | .unexpectedCharacter found offset =>
    "unexpected character '" ++ String.ofList [found] ++ "' at offset " ++ Text.natText offset
  | .unexpectedToken t => "unexpected " ++ t.phrase
  | .unexpectedEnd => "expression ended early"
  | .tooDeep => "expression nests too deeply"
  | .nonFinite => "expression does not evaluate to a finite number"

/-- The error that a fault of scanning is. -/
def ofScan : ScanFault → FormulaError
  | .unterminated offset => .unterminatedPlaceholder offset
  | .unexpected found offset => .unexpectedCharacter found offset

/-- The error that a refused token list is. -/
def ofRefusal : Refusal Float → FormulaError
  | .unexpectedToken t => .unexpectedToken t
  | .unexpectedEnd => .unexpectedEnd
  | .tooDeep => .tooDeep

end FormulaError

/-- The number that a value contributes to a formula: only numbers and text that is not blank have
one, and it has to be finite. -/
def contribution? (value : Json) : Option Float :=
  let reading :=
    match value with
    | .num n => some n.toFloat
    | .str s => if Text.isBlankText s then none else Json.textReading? s
    | _ => none
  reading.filter Float.isFinite

/-- The number of a field of the job. -/
def resolveName (job : Record) (name : String) : Except FormulaError Float :=
  match job.find? name with
  | none => .error (.unresolvedPlaceholder name)
  | some value =>
    match contribution? value with
    | some x => .ok x
    | none => .error (.nonNumericPlaceholder name)

/-- The number that a literal writes. -/
def resolveLiteral (run : List Char) : Except FormulaError Float :=
  match Decimal.Numeral.read? run with
  | some n => .ok n.toFloat
  | none => .error (.invalidNumber (String.ofList run))

/-- A token with the number of its operand. -/
def resolveToken (job : Record) : Token Operand → Except FormulaError (Token Float)
  | .symbol s => .ok (.symbol s)
  | .operand (.literal run) => (resolveLiteral run).map .operand
  | .operand (.placeholder name) =>
    (resolveName job (String.ofList (Text.trimChars name))).map .operand

/-- The tokens of a formula with the numbers of their operands. -/
def tokenize (formula : String) (job : Record) : Except FormulaError (List (Token Float)) := do
  let scanned := scan formula
  let tokens ← scanned.tokens.mapM (resolveToken job)
  match scanned.fault with
  | some fault => .error (.ofScan fault)
  | none => .ok tokens

/-- The value of an expression, which has to be finite. -/
def finiteValue (e : Expr Float) : Except FormulaError Float :=
  if e.value.isFinite then .ok e.value else .error .nonFinite

/-- The value of a token list. -/
def evaluateTokens (tokens : List (Token Float)) : Except FormulaError Float :=
  match parse tokens with
  | .ok e => finiteValue e
  | .error reason => .error (.ofRefusal reason)

/-- The value of a formula on a job. -/
def evaluate (formula : String) (job : Record) : Except FormulaError Float := do
  evaluateTokens (← tokenize formula job)

/-- The value of a formula as a field value: a whole number smaller than `9 · 10^15` is an integer,
any other finite number a double. -/
def fieldValue? (x : Float) : Option Json :=
  match Decimal.wholeBelow? (9 * Decimal.tenTo 15) x with
  | some n => some (.int n)
  | none => if x.isFinite then some (.num (.float x)) else none

end ReportRules.Formula
