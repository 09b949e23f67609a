import ReportRules.Text.Blank
import ReportRules.Text.Figures

/-!
# ReportRules.Http.MediaType -- the type of a request body

A media type is `type/subtype`, followed by parameters behind semicolons. Letters may be in either
case. A subtype ending in `+name` has that name as its suffix. A body is JSON when its type is
`application/json`, or any `application` type with the suffix `json`.
-/

namespace ReportRules.Http

/-- A media type without its parameters, in small letters. -/
structure MediaType where
  type : String
  /-- The subtype without its suffix. -/
  subtype : String
  suffix : Option String
  deriving Repr, DecidableEq

namespace MediaType

/-- The characters of names and of unquoted parameter values. -/
def isTokenChar (c : Char) : Bool :=
  c.isAlphanum || "!#$%&'*+-.^_|~".toList.contains c || c.toNat == 96

/-- The characters of quoted parameter values. -/
def isQuotedChar (c : Char) : Bool :=
  32 ≤ c.toNat && c.toNat < 127

/-- Check a list of parameters; `fuel` bounds their number. Spaces may stand before a parameter and
behind a quoted value, and a quoted value has at least one character, which may be a quote. -/
def readParameters : Nat → List Char → Bool
  | 0, _ => false
  | fuel + 1, cs =>
    match cs.dropWhile (· == ' ') with
    | [] => true
    | cs =>
      let name := cs.takeWhile isTokenChar
      match name, cs.dropWhile isTokenChar with
      | _ :: _, '=' :: '"' :: first :: rest =>
        isQuotedChar first &&
          match rest.dropWhile fun c => isQuotedChar c && c != '"' with
          | '"' :: rest =>
            match rest.dropWhile (· == ' ') with
            | [] => true
            | ';' :: rest => readParameters fuel rest
            | _ => false
          | _ => false
      | _ :: _, '=' :: rest =>
        match rest.takeWhile isTokenChar, rest.dropWhile isTokenChar with
        | _, [] => true
        | _ :: _, ';' :: rest => readParameters fuel rest
        | _, _ => false
      | _, _ => false

/-- A subtype at its last plus sign, which must not be its first character. -/
def splitSuffix (cs : List Char) : List Char × Option (List Char) :=
  let suffix := cs.reverse.takeWhile (· != '+')
  match cs.reverse.dropWhile (· != '+') with
  | _ :: before@(_ :: _) => (before.reverse, some suffix.reverse)
  | _ => (cs, none)

/-- Characters as text in small letters. -/
def folded (cs : List Char) : String :=
  Text.lowerAscii (String.ofList cs)

/-- The media type that a text writes. -/
def read? (text : String) : Option MediaType :=
  let cs := text.toList
  let type := cs.takeWhile isTokenChar
  match type, cs.dropWhile isTokenChar with
  | _ :: _, '/' :: rest =>
    let subtype := rest.takeWhile isTokenChar
    let parametersFine :=
      match subtype, rest.dropWhile isTokenChar with
      | _, [] => true
      | _ :: _, ';' :: parameters => readParameters cs.length parameters
      | _, _ => false
    if parametersFine then
      let (name, suffix) := splitSuffix subtype
      some ⟨folded type, folded name, suffix.map folded⟩
    else none
  | _, _ => none

/-- Whether a body of this type is JSON. -/
def isJson (m : MediaType) : Bool :=
  m.type == "application" && (m.subtype == "json" || m.suffix == some "json")

end MediaType

end ReportRules.Http
