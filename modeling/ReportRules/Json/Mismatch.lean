import ReportRules.Json.Fault
import ReportRules.Json.Value
import ReportRules.Text.Quoted

/-!
# ReportRules.Json.Mismatch -- why a document does not decode

A document that is JSON so far may still not be what was asked for. `Mismatch` lists the ways, and
`DecodeError` joins them with the faults of the text. The sentences name what was found and what
was expected; numbers appear in them as JSON writes them, texts between quotes.
-/

namespace ReportRules.Json

/-- What was found in place of something else. -/
inductive Found
  | null
  | bool (b : Bool)
  | num (n : Number)
  | str (s : String)
  | sequence
  | map

/-- A value of the wrong shape. -/
inductive Mismatch
  | missingField (name : String)
  | duplicateField (name : String)
  | unknownVariant (given : String) (known : List String)
  | invalidType (found : Found) (expected : String)
  | invalidValue (found : Found) (expected : String)
  | invalidLength (given : Nat) (owner : String) (fields : Nat)
  | unreadableTime (reason : String)

/-- Why decoding stopped: a fault of the text, or a value of the wrong shape. -/
inductive DecodeError
  | malformed (fault : Fault)
  | mismatch (m : Mismatch)

/-- What was found, as a phrase. -/
def Found.phrase : Found → String
  | .null => "null"
  | .bool true => "boolean `true`"
  | .bool false => "boolean `false`"
  | .num (.int n) => "integer `" ++ Text.intText n ++ "`"
  | .num (.float x) => "floating point `" ++ Decimal.Layout.json.text x ++ "`"
  | .str s => "string " ++ Text.quoted s
  | .sequence => "sequence"
  | .map => "map"

/-- The variants that are known, as the end of a sentence. -/
def variantsPhrase : List String → String
  | [] => "there are no variants"
  | [a] => "expected `" ++ a ++ "`"
  | [a, b] => "expected `" ++ a ++ "` or `" ++ b ++ "`"
  | many => "expected one of " ++ ", ".intercalate (many.map fun name => "`" ++ name ++ "`")

/-- The sentence that reports a mismatch. -/
def Mismatch.message : Mismatch → String
  | .missingField name => "missing field `" ++ name ++ "`"
  | .duplicateField name => "duplicate field `" ++ name ++ "`"
  | .unknownVariant given known => "unknown variant `" ++ given ++ "`, " ++ variantsPhrase known
  | .invalidType found expected => "invalid type: " ++ found.phrase ++ ", expected " ++ expected
  | .invalidValue found expected => "invalid value: " ++ found.phrase ++ ", expected " ++ expected
  | .invalidLength given owner fields =>
    "invalid length " ++ Text.natText given ++ ", expected struct " ++ owner ++ " with " ++
      Text.natText fields ++ (if fields = 1 then " element" else " elements")
  | .unreadableTime reason => reason

/-- The sentence that reports why decoding stopped. -/
def DecodeError.message : DecodeError → String
  | .malformed fault => fault.message
  | .mismatch m => m.message

/-- Whether the text ended too early. -/
def DecodeError.isCutOff : DecodeError → Bool
  | .malformed fault => fault.isCutOff
  | .mismatch _ => false

end ReportRules.Json
