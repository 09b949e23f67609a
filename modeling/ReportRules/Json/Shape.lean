import ReportRules.Json.Codec

/-!
# ReportRules.Json.Shape -- structures with named fields

A `Shape` describes a structure as a list of declared fields. It is read from an object, whose
members may come in any order and may include unknown ones, or from an array of the fields in their
declared order; it is written as an object with its members in declared order. Shapes are put
together from single fields with `Shape.and` and turned into the structure with `Shape.iso`.

Reading an object visits its members in the order of the text. A field that comes twice is refused
when its key comes up again; a field that is missing is noticed when the object closes, the first
one in declared order.
-/

namespace ReportRules.Json

variable {α β : Type}

/-- Elements of an array that are still to be taken, and how many were taken. -/
structure Feed where
  items : List Document
  ending : Ending
  taken : Nat

/-- The next element, if the array has not ended. -/
def Feed.next (f : Feed) : Except DecodeError (Option Document × Feed) :=
  match f.items, f.ending with
  | d :: rest, _ => .ok (some d, { f with items := rest, taken := f.taken + 1 })
  | [], .closed => .ok (none, f)
  | [], .broken wanted _ | [], .afterComma wanted _ => malformed wanted

/-- The end of an array whose fields have all been taken. -/
def Feed.finish (f : Feed) : Except DecodeError Unit :=
  match f.items, f.ending with
  | [], .closed => .ok ()
  | [], .broken (.cutOff reading) _ => malformed (.cutOff reading)
  | .broken _ .trailingComma _ :: _, _ => malformed .trailingComma
  | _, _ => malformed .trailingCharacters

/-- A structure with named fields, while it is being read and after. -/
structure Shape (α : Type) where
  /-- What is known of the fields so far. -/
  Slots : Type
  /-- Nothing is known. -/
  start : Slots
  /-- The number of declared fields. -/
  count : Nat
  /-- Read the value of a member into its slot; `none` if no field has that name. -/
  accept? : String → Document → Slots → Option (Except DecodeError Slots)
  /-- The structure once its object has closed. -/
  close : Slots → Except DecodeError α
  /-- The structure from the elements of an array; the first two arguments are the name of the
  structure and the number of its fields, for messages. -/
  take : String → Nat → Feed → Except DecodeError (α × Feed)
  /-- The members of a structure. -/
  write : α → List (String × Json)

namespace Shape

/-- A field. `missing` is its value when no member has its name, `short` when an array is too short
for it; without such a value the field is needed. It is written when it is `shown`. -/
def field (name : String) (c : Codec α) (missing short : Option α) (shown : α → Bool) :
    Shape α where
  Slots := Option α
  start := none
  count := 1
  accept? key d slot :=
    if key = name then
      some <|
        match slot with
        | some _ => mismatched (.duplicateField name)
        | none => (c.decode d).map some
    else none
  close slot :=
    match slot, missing with
    | some value, _ => .ok value
    | none, some value => .ok value
    | none, none => mismatched (.missingField name)
  take owner fields feed := do
    let (item, rest) ← feed.next
    match item, short with
    | some d, _ => (c.decode d).map fun value => (value, rest)
    | none, some value => .ok (value, { rest with taken := rest.taken + 1 })
    | none, none => mismatched (.invalidLength feed.taken owner fields)
  write value := if shown value then [(name, c.encode value)] else []

/-- A field that has to be there. -/
def required (name : String) (c : Codec α) : Shape α :=
  field name c none none fun _ => true

/-- A field with a default. -/
def defaulted (name : String) (c : Codec α) (value : α) : Shape α :=
  field name c (some value) (some value) fun _ => true

/-- A field that may be absent or `null`, and is not written when it is absent. -/
def optional (name : String) (c : Codec α) : Shape (Option α) :=
  field name c.optional (some none) (some none) Option.isSome

/-- A field that may be absent or `null`, and is written as `null` when it is absent. -/
def nullable (name : String) (c : Codec α) : Shape (Option α) :=
  defaulted name c.optional none

/-- A field that may be absent or `null` in an object but has its place in an array, and is written
as `null` when it is absent. -/
def placed (name : String) (c : Codec α) : Shape (Option α) :=
  field name c.optional (some none) none fun _ => true

/-- The fields of two shapes, those of the first one declared first. -/
def and (a : Shape α) (b : Shape β) : Shape (α × β) where
  Slots := a.Slots × b.Slots
  start := (a.start, b.start)
  count := a.count + b.count
  accept? key d slots :=
    match a.accept? key d slots.1 with
    | some result => some (result.map fun first => (first, slots.2))
    | none => (b.accept? key d slots.2).map fun result => result.map fun second => (slots.1, second)
  close slots := do
    let first ← a.close slots.1
    let second ← b.close slots.2
    .ok (first, second)
  take owner fields feed := do
    let (first, feed) ← a.take owner fields feed
    let (second, feed) ← b.take owner fields feed
    .ok ((first, second), feed)
  write pair := a.write pair.1 ++ b.write pair.2

/-- A shape whose structure is built from the one of another shape, and taken apart into it. -/
def iso (a : Shape α) (build : α → β) (parts : β → α) : Shape β where
  Slots := a.Slots
  start := a.start
  count := a.count
  accept? := a.accept?
  close slots := (a.close slots).map build
  take owner fields feed := (a.take owner fields feed).map fun (x, rest) => (build x, rest)
  write x := a.write (parts x)

/-- Read the members of an object one after the other. -/
def members (a : Shape α) : List (Key × Document) → a.Slots → Except DecodeError a.Slots
  | [], slots => .ok slots
  | (.spoilt fault, _) :: _, _ => malformed fault
  | (.text key, d) :: rest, slots =>
    match a.accept? key d slots with
    | some result => do
      let slots ← result
      members a rest slots
    | none =>
      match d.pass with
      | .error fault => malformed fault
      | .ok () => members a rest slots

/-- The decoder of a structure. -/
def decoder (a : Shape α) (name : String) : Decoder α
  | .obj entries ending => do
    let slots ← a.members entries a.start
    match ending with
    | .closed => a.close slots
    | .broken wanted _ | .afterComma wanted _ => malformed wanted
  | .arr items ending => do
    let (value, feed) ← a.take name a.count ⟨items, ending, 0⟩
    feed.finish
    .ok value
  | d => d.refuse ("struct " ++ name)

/-- The JSON form of a structure; its name appears in messages. -/
def codec (a : Shape α) (name : String) : Codec α :=
  ⟨a.decoder name, fun x => .obj (a.write x)⟩

end Shape

end ReportRules.Json
