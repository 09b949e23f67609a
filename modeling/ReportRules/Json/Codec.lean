import ReportRules.Json.Decoder
import ReportRules.Json.Reader

/-!
# ReportRules.Json.Codec -- types with a JSON form

A `Codec` holds both directions of a JSON form: how a value is read off a document and how it is
written. A type with a JSON form has one definition for both, so the two cannot drift apart.

`Codec.Keeps` says what it means that a value survives its JSON form.
-/

namespace ReportRules.Json

variable {α β : Type}

/-- A JSON form of a type. -/
structure Codec (α : Type) where
  decode : Decoder α
  encode : α → Json

namespace Codec

/-- Reading what was written gives the value back. -/
def Keeps (c : Codec α) (x : α) : Prop :=
  c.decode (.ofJson (c.encode x)) = .ok x

/-- Any value. -/
def json : Codec Json :=
  ⟨Decoder.json, id⟩

/-- A text. -/
def text : Codec String :=
  ⟨Decoder.text, .str⟩

/-- A truth value. -/
def bool : Codec Bool :=
  ⟨Decoder.bool, .bool⟩

/-- A double. -/
def double : Codec Float :=
  ⟨Decoder.double, Json.float⟩

/-- A natural number of 32 bits. -/
def word32 : Codec Nat :=
  ⟨Decoder.word32, Json.nat⟩

/-- A natural number of 64 bits, used as a position. -/
def position : Codec Nat :=
  ⟨Decoder.position, Json.nat⟩

/-- A signed integer of 64 bits. -/
def signed64 : Codec Int :=
  ⟨Decoder.signed64, Json.int⟩

/-- A value that may be `null`. -/
def optional (c : Codec α) : Codec (Option α) :=
  ⟨c.decode.optional, fun x => (x.map c.encode).getD .null⟩

/-- A list of values. -/
def list (c : Codec α) : Codec (List α) :=
  ⟨c.decode.list, fun xs => .arr (xs.map c.encode)⟩

/-- A form record. -/
def record : Codec (Keyed Json) :=
  ⟨Decoder.record, fun r => .obj r.entries⟩

/-- One of a closed set, by its name. -/
def choice (all : List α) (name : α → String) : Codec α :=
  ⟨Decoder.choice (all.map fun x => (name x, x)), fun x => .str (name x)⟩

/-- One of a set of names, of which several may stand for the same value; names that are not known
stand for `fallback`. -/
def openChoice (known : List (String × α)) (fallback : α) (name : α → String) : Codec α :=
  ⟨Decoder.openChoice known fallback, fun x => .str (name x)⟩

/-- The value that a whole text writes. -/
def ofText (c : Codec α) (text : String) : Except DecodeError α := do
  let source := Source.read text
  let value ← c.decode source.root
  if source.trailing then malformed .trailingCharacters else .ok value

/-- The value at the front of a text, whatever follows it. -/
def ofFrontOfText (c : Codec α) (text : String) : Except DecodeError α :=
  c.decode (Source.read text).root

end Codec

end ReportRules.Json
