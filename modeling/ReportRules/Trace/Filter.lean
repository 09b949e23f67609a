import ReportRules.Text.Alphanumeric
import ReportRules.Text.Blank
import ReportRules.Text.Figures
import ReportRules.Text.Words
import ReportRules.Trace.Event

/-!
# ReportRules.Trace.Filter -- which events are let through

A filter is a list of directives. A directive limits the level of events, either of all events or of
those whose target begins with a given path; it may speak only about events with a certain field. Of
the directives that speak about an event, the one with the longest path decides. An event without
such a directive does not pass.

A filter is written as directives with commas between them: `level`, or `path=level`, or a path
alone, which lets everything below it pass. Levels are names in either case, or numbers from 0
(nothing passes) to 5 (everything passes). Behind the path a directive may name a span, or a field
in braces, or both, in square brackets.
-/

namespace ReportRules.Trace

/-- A field that a directive asks for, possibly with a value. -/
structure FieldTest where
  name : String
  value : Option String := none
  deriving Repr, DecidableEq

/-- A limit for the level of events. -/
structure Directive where
  /-- The beginning of the targets that the directive speaks about; without one it speaks about all
  events. -/
  target : Option String
  /-- The span within which the directive holds. -/
  span : Option String := none
  field : Option FieldTest := none
  /-- The rank of the least important level that passes; nothing has rank zero. -/
  limit : Nat
  deriving Repr, DecidableEq

/-- The directives in force, at most one for each subject. -/
structure Filter where
  directives : List Directive := []
  deriving Repr, DecidableEq

namespace Directive

/-! ## Reading -/

/-- The names of the limits. -/
def limitNames : List (String × Nat) :=
  [("off", 0), ("error", 1), ("warn", 2), ("info", 3), ("debug", 4), ("trace", 5)]

/-- The limit that a text names. -/
def limit? (cs : List Char) : Option Nat :=
  match Text.natural? cs with
  | some n => if n ≤ 5 then some n else none
  | none => limitNames.lookup (Text.lowerAscii (String.ofList cs))

/-- Characters that may begin a path. -/
def isFirstChar (c : Char) : Bool :=
  Text.isAlphanumeric c || c == '-' || c == ':' || c == '_'

/-- The field that a text between braces asks for. -/
def readField (cs : List Char) : FieldTest :=
  match (Text.pieces (· == '=') cs).map String.ofList with
  | name :: value :: _ => { name, value := some value }
  | _ => { name := String.ofList cs }

/-- The span and the field that stand between square brackets, and the text behind these. The text
given begins behind the opening one. A span without a field may have the empty name. -/
def readScope? (cs : List Char) : Option (Option String × Option FieldTest × List Char) :=
  let span := cs.takeWhile fun c => c != ']' && c != '\x7b'
  match cs.drop span.length with
  | ']' :: rest => some (some (String.ofList span), none, rest)
  | '\x7b' :: rest =>
    let test := rest.takeWhile (· != '\x7d')
    match test, rest.drop test.length with
    | _ :: _, '\x7d' :: ']' :: rest =>
      some (if span.isEmpty then none else some (String.ofList span), some (readField test), rest)
    | _, _ => none
  | _ => none

/-- The parts of a directive as they are written. -/
structure Parts where
  path : List Char
  span : Option String := none
  field : Option FieldTest := none
  /-- What stands behind the equals sign, if there is one. -/
  level : Option (List Char) := none

/-- The parts that stand behind a path. -/
def readBehind? (path : List Char) : List Char → Option Parts
  | '=' :: level => some { path, level := some level }
  | '[' :: scope => do
    let (span, field, rest) ← readScope? scope
    match rest with
    | '=' :: level => some { path, span, field, level := some level }
    | _ => if rest.all Text.isBlank then some { path, span, field } else none
  | _ => some { path }

/-- The parts of a text without white space in front. -/
def readParts? (cs : List Char) : Option Parts :=
  let path := cs.takeWhile fun c => c != '=' && c != '['
  let rest := cs.drop path.length
  let begun := match path with
    | first :: _ => isFirstChar first
    | [] => rest.head? == some '['
  if begun then readBehind? path rest else none

/-- The directive that parts make. A path alone may be a level; a path without a level lets
everything pass. -/
def ofParts? (p : Parts) : Option Directive :=
  let target := if p.path.isEmpty then none else some (String.ofList p.path)
  match p.level with
  | some (c :: level) => (limit? (c :: level)).map fun limit => ⟨target, p.span, p.field, limit⟩
  | some [] => some ⟨target, p.span, p.field, Level.trace.rank⟩
  | none =>
    match if p.span.isNone && p.field.isNone then limit? p.path else none with
    | some limit => some { target := none, limit }
    | none => some ⟨target, p.span, p.field, Level.trace.rank⟩

/-- The directive that a text between commas writes. White space in front belongs to the path, which
then is the beginning of no target and must not be given a level. -/
def read? (cs : List Char) : Option Directive := do
  let unindented := Text.trimStartChars cs
  let parts ← readParts? unindented
  if unindented.length = cs.length then ofParts? parts
  else if parts.level.isSome then none
  else some { target := some (String.ofList cs), limit := Level.trace.rank }

/-! ## What a directive is about -/

/-- Whether two directives are about the same, so that only one of them can be in force. -/
def sameSubject (d other : Directive) : Bool :=
  d.target == other.target && d.span == other.span && d.field == other.field

/-- Whether a directive speaks about an event. Events are reported outside of all spans, and the
values of their fields are not looked at. -/
def covers (d : Directive) (e : Event) : Bool :=
  (match d.target with
    | none => true
    | some path => path.toList.isPrefixOf e.target.toList) &&
  d.span.isNone &&
  (match d.field with
    | none => true
    | some test => test.value.isNone && e.fieldNames.contains test.name)

/-- How closely a directive speaks about the events it covers: a longer path counts more, then a
field. -/
def weight (d : Directive) : Nat :=
  2 * (match d.target with
    | none => 0
    | some path => path.length + 1) + (if d.field.isSome then 1 else 0)

/-- The name of the field that a directive asks for. -/
def fieldName (d : Directive) : String :=
  (d.field.map FieldTest.name).getD ""

/-- Whether a directive speaks more closely about an event that both cover. Of two that ask for
different fields it is the one whose field comes last. -/
def isCloserThan (d other : Directive) : Bool :=
  other.weight < d.weight || (d.weight == other.weight && other.fieldName < d.fieldName)

/-- Whether a path occurs in the words of a directive. -/
def mentions (d : Directive) (path : String) : Bool :=
  [d.target, d.span, d.field.map FieldTest.name, d.field.bind FieldTest.value].any fun word? =>
    word?.any fun word => Text.contains word path

end Directive

namespace Filter

/-- Put a directive in force, in place of the one about the same. -/
def add (f : Filter) (d : Directive) : Filter :=
  ⟨d :: f.directives.filter fun other => !d.sameSubject other⟩

/-- The filter without directives of its own: errors pass. -/
def errorsOnly : Filter :=
  ⟨[{ target := none, limit := Level.error.rank }]⟩

/-- The filter that a text writes. -/
def read? (text : String) : Option Filter := do
  let parts := (Text.pieces (· == ',') text.toList).filter (!·.isEmpty)
  let directives ← parts.mapM Directive.read?
  some (if directives.isEmpty then errorsOnly else directives.foldl add {})

/-- Of two directives, the one that speaks more closely. -/
def closer (best : Option Directive) (d : Directive) : Option Directive :=
  match best with
  | none => some d
  | some b => if d.isCloserThan b then some d else some b

/-- The directive that decides about an event. -/
def deciding? (f : Filter) (e : Event) : Option Directive :=
  (f.directives.filter fun d => d.covers e).foldl closer none

/-- Whether an event passes. -/
def passes (f : Filter) (e : Event) : Bool :=
  match f.deciding? e with
  | some d => e.level.rank ≤ d.limit
  | none => false

/-- Whether a directive in force mentions the parts that evaluate rules. -/
def tracesRules (f : Filter) : Bool :=
  f.directives.any fun d => d.mentions automationTarget

end Filter

/-- How much is logged. -/
structure LogSettings where
  /-- The filter for all events. -/
  level : String := "info"
  /-- Whether the parts that evaluate rules report everything. -/
  traceRules : Bool := false
  deriving Repr, DecidableEq

/-- The directive that lets the parts that evaluate rules report everything. -/
def ruleTracing : Directive :=
  { target := some automationTarget, limit := Level.debug.rank }

/-- The filter for settings. A filter given by `override` takes the place of the level if it can be
read; a level that cannot be read is returned as the error. -/
def LogSettings.filter (s : LogSettings) (override : Option String) : Except String Filter :=
  match (override.bind Filter.read?).or (Filter.read? s.level) with
  | none => .error s.level
  | some f => .ok (if s.traceRules then f.add ruleTracing else f)

/-- The sentence that reports a level that cannot be read. -/
def invalidFilterMessage (level : String) : String :=
  "invalid log filter '" ++ level ++ "' for the automation service"

end ReportRules.Trace
