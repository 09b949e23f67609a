import ReportRules.Json.Document
import ReportRules.Json.Mismatch

/-!
# ReportRules.Json.Decoder -- typed values from documents

A `Decoder` turns a document into a typed value or says why it cannot. The decoders of this file
are the building stones: texts, numbers, lists, optional values and closed sets of names. All of
them look at a document from left to right, so the first problem is the one reported, and a
container of the wrong kind is reported without looking inside.
-/

namespace ReportRules.Json

variable {α β : Type}

/-- A way to read a typed value off a document. -/
abbrev Decoder (α : Type) :=
  Document → Except DecodeError α

/-- Refuse because of a fault of the text. -/
def malformed (fault : Fault) : Except DecodeError α :=
  .error (.malformed fault)

/-- Refuse because of the shape of a value. -/
def mismatched (m : Mismatch) : Except DecodeError α :=
  .error (.mismatch m)

/-- Refuse a document that is not what was expected: for its own fault if it has one in front,
otherwise for its kind. -/
def Document.refuse (expected : String) : Document → Except DecodeError α
  | .null => mismatched (.invalidType .null expected)
  | .bool b => mismatched (.invalidType (.bool b) expected)
  | .num n => mismatched (.invalidType (.num n) expected)
  | .str s => mismatched (.invalidType (.str s) expected)
  | .arr _ _ => mismatched (.invalidType .sequence expected)
  | .obj _ _ => mismatched (.invalidType .map expected)
  | .broken _ wanted _ => malformed wanted
  | .lax fault _ => malformed fault

namespace Decoder

/-- Any value. -/
def json : Decoder Json := fun d =>
  match d.keep with
  | .ok value => .ok value
  | .error fault => malformed fault

/-- A text. -/
def text : Decoder String
  | .str s => .ok s
  | d => d.refuse "a string"

/-- A truth value. -/
def bool : Decoder Bool
  | .bool b => .ok b
  | d => d.refuse "a boolean"

/-- A double; integers are taken as the nearest double. -/
def double : Decoder Float
  | .num n => .ok n.toFloat
  | d => d.refuse "f64"

/-- An integer from `low` to `high`; `kind` names the range in messages. -/
def integer (kind : String) (low high : Int) : Decoder Int
  | .num (.int n) =>
    if low ≤ n ∧ n ≤ high then .ok n else mismatched (.invalidValue (.num (.int n)) kind)
  | d => d.refuse kind

/-- A natural number below `bound`. -/
def natural (kind : String) (bound : Nat) : Decoder Nat := fun d =>
  (integer kind 0 ((bound : Int) - 1) d).map Int.toNat

/-- A natural number of 32 bits. -/
def word32 : Decoder Nat :=
  natural "u32" (Decimal.twoTo 32)

/-- A natural number of 64 bits, used as a position. -/
def position : Decoder Nat :=
  natural "usize" (Decimal.twoTo 64)

/-- A signed integer of 64 bits. -/
def signed64 : Decoder Int :=
  integer "i64" (-(Decimal.twoTo 63 : Int)) (Decimal.twoTo 63 - 1)

/-- A value that may be `null`; one that begins like `null` is read as `null` first. -/
def optional (decode : Decoder α) : Decoder (Option α)
  | .null => .ok none
  | .broken (some 'n') wanted _ => malformed wanted
  | d => (decode d).map some

/-- A list of values. -/
def list (decode : Decoder α) : Decoder (List α)
  | .arr items ending => do
    let values ← items.mapM decode
    match ending with
    | .closed => .ok values
    | .broken wanted _ | .afterComma wanted _ => malformed wanted
  | d => d.refuse "a sequence"

/-- A form record: an object with any members, of which repeated ones keep the last value. -/
def record : Decoder (Keyed Json)
  | .obj members ending => do
    let entries ← members.mapM fun (key, d) =>
      match key with
      | .spoilt fault => malformed fault
      | .text k => (json d).map fun value => (k, value)
    match ending with
    | .closed => .ok (Keyed.ofList entries)
    | .broken wanted _ | .afterComma wanted _ => malformed wanted
  | d => d.refuse "a map"

/-! ## Closed sets of names -/

/-- The value that a name stands for; `fallback` takes the names that are not known. -/
def named (known : List (String × α)) (fallback : Option α) (name : String) :
    Except DecodeError α :=
  match known.lookup name, fallback with
  | some value, _ => .ok value
  | none, some value => .ok value
  | none, none => mismatched (.unknownVariant name (known.map Prod.fst))

/-- The content of a variant without content. -/
def unit : Decoder Unit
  | .null => .ok ()
  | d => d.refuse "unit"

/-- What is wrong behind the only member that the object of a variant has. -/
def afterVariant (more : List (Key × Document)) (ending : Ending) : Except DecodeError Unit :=
  match more, ending with
  | [], .closed => .ok ()
  | [], .broken (.cutOff reading) _ => malformed (.cutOff reading)
  | _, _ => malformed .expectedValue

/-- One of a closed set of names, given as a text or as an object whose only member has the name
as its key and `null` as its value. -/
def variant (known : List (String × α)) (fallback : Option α) : Decoder α
  | .str s => named known fallback s
  | .obj ((key, content) :: more) ending =>
    match key with
    | .spoilt fault => malformed fault
    | .text name => do
      let value ← named known fallback name
      unit content
      afterVariant more ending
      .ok value
  | .obj [] (.broken wanted _) | .obj [] (.afterComma wanted _) =>
    malformed (if wanted.isCutOff then .cutOff .value else wanted)
  | .obj [] .closed => malformed .expectedValue
  | .broken first wanted _ =>
    match first with
    | some '"' | none => malformed wanted
    | some _ => malformed .expectedValue
  | .lax fault (.str _) => malformed fault
  | .lax fault (.obj _ _) => malformed fault
  | _ => malformed .expectedValue

/-- One of a closed set of names, none of which stands for the rest. -/
def choice (known : List (String × α)) : Decoder α :=
  variant known none

/-- One of a set of names, of which one stands for all names that are not known. -/
def openChoice (known : List (String × α)) (fallback : α) : Decoder α :=
  variant known (some fallback)

end Decoder

end ReportRules.Json
