import ReportRules.Record

/-!
# ReportRules.Evidence -- photos, location locks and signatures

A rule may ask that a unit carries evidence. Which fields hold it is configured: photos are counted
over every field whose key contains a marker, the location lock and the signature have a field each.
-/

namespace ReportRules

/-- The least evidence that a unit must carry. -/
structure EvidenceMinimum where
  photos : Option Nat := none
  gps : Bool := false
  signature : Bool := false
  deriving Repr, DecidableEq

/-- Whether nothing is asked for. -/
def EvidenceMinimum.isEmpty (e : EvidenceMinimum) : Bool :=
  e.photos.getD 0 == 0 && !e.gps && !e.signature

/-- The fields in which evidence is looked for. -/
structure EvidenceFields where
  /-- Photo fields are those whose key contains this text. -/
  photoMarker : String := "photo"
  gpsField : String := "gps_lock"
  signatureField : String := "signature"
  deriving Repr, DecidableEq

/-- The number of photos in a value: the elements of an array that are not `null`, and one for a
text that is not blank or an object that is not empty. -/
def Json.photoCount : Json → Nat
  | .arr items => (items.filter fun item => !item.isNull).length
  | .str s => if Text.isBlankText s then 0 else 1
  | .obj members => if members.isEmpty then 0 else 1
  | .null | .bool _ | .num _ => 0

/-- The number of photos in the fields of a record whose key contains the marker. -/
def Record.photoCount (r : Record) (marker : String) : Nat :=
  (r.entries.filter fun (key, _) => Text.contains key marker).foldr
    (fun (_, value) n => value.photoCount + n) 0

end ReportRules
