import ReportRules.Json.Value
import ReportRules.Keyed

/-!
# ReportRules.Json.Printer -- JSON values as text

`Json.compact` writes a value without white space, `Json.pretty` over several lines with two spaces
per level. Members are written in the order in which the value lists them. Inside strings only the
quote, the backslash and the control characters below the space are escaped.

Structures are written with their members in declared order. Where a text is to depend on content
only, `Json.ordered` first brings the members of every object into ascending order of their keys.
-/

namespace ReportRules.Json

/-- One character inside a JSON string. -/
def stringChar (c : Char) : List Char :=
  if c == '"' then ['\\', '"']
  else if c == '\\' then ['\\', '\\']
  else if c == '\n' then ['\\', 'n']
  else if c == '\r' then ['\\', 'r']
  else if c == '\t' then ['\\', 't']
  else if c.toNat == 8 then ['\\', 'b']
  else if c.toNat == 12 then ['\\', 'f']
  else if c.toNat < 32 then ['\\', 'u'] ++ List.leftpad 4 '0' (Nat.toDigits 16 c.toNat)
  else [c]

/-- A text as a JSON string. -/
def stringText (s : String) : String :=
  String.ofList ('"' :: s.toList.flatMap stringChar ++ ['"'])

mutual
/-- A value as text without white space. -/
def compact : Json → String
  | .null => "null"
  | .bool true => "true"
  | .bool false => "false"
  | .num n => n.text
  | .str s => stringText s
  | .arr items => "[" ++ ",".intercalate (compactItems items) ++ "]"
  | .obj members => "\x7b" ++ ",".intercalate (compactMembers members) ++ "\x7d"

/-- The texts of the elements of an array. -/
def compactItems : List Json → List String
  | [] => []
  | x :: rest => compact x :: compactItems rest

/-- The texts of the members of an object. -/
def compactMembers : List (String × Json) → List String
  | [] => []
  | (k, x) :: rest => (stringText k ++ ":" ++ compact x) :: compactMembers rest
end

/-- A line break followed by the indentation of a level. -/
def lineBreak (level : Nat) : String :=
  String.ofList ('\n' :: List.replicate (2 * level) ' ')

/-- A bracketed list with one element per line; an empty list stays on its line. -/
def bracketed (opening closing : String) (level : Nat) (parts : List String) : String :=
  if parts.isEmpty then opening ++ closing
  else
    opening ++ lineBreak (level + 1) ++ ("," ++ lineBreak (level + 1)).intercalate parts ++
      lineBreak level ++ closing

mutual
/-- A value as text over several lines, at the given level of indentation. -/
def prettyAt (level : Nat) : Json → String
  | .arr items => bracketed "[" "]" level (prettyItems (level + 1) items)
  | .obj members => bracketed "\x7b" "\x7d" level (prettyMembers (level + 1) members)
  | .null => "null"
  | .bool true => "true"
  | .bool false => "false"
  | .num n => n.text
  | .str s => stringText s

/-- The texts of the elements of an array, each at the given level. -/
def prettyItems (level : Nat) : List Json → List String
  | [] => []
  | x :: rest => prettyAt level x :: prettyItems level rest

/-- The texts of the members of an object, each at the given level. -/
def prettyMembers (level : Nat) : List (String × Json) → List String
  | [] => []
  | (k, x) :: rest => (stringText k ++ ": " ++ prettyAt level x) :: prettyMembers level rest
end

/-- A value as text over several lines. -/
def pretty (value : Json) : String :=
  prettyAt 0 value

/-! ## Members in ascending order -/

mutual
/-- A value with the members of all objects in ascending order. -/
def ordered : Json → Json
  | .arr items => .arr (orderedItems items)
  | .obj members => .obj (orderedMembers members)
  | .null => .null
  | .bool b => .bool b
  | .num n => .num n
  | .str s => .str s

/-- The same for the elements of an array. -/
def orderedItems : List Json → List Json
  | [] => []
  | x :: rest => ordered x :: orderedItems rest

/-- The members of an object, put in one by one from the last; of two members with the same key the
earlier one counts. -/
def orderedMembers : List (String × Json) → List (String × Json)
  | [] => []
  | (k, x) :: rest => Keyed.insertEntry k (ordered x) (orderedMembers rest)
end

end ReportRules.Json
