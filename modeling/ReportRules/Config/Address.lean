import ReportRules.Text.Figures

/-!
# ReportRules.Config.Address -- network addresses

An address of version 4 is four numbers below 256 with points between them, written without leading
zeros. An address of version 6 is eight groups of up to four hexadecimal digits with colons between
them; one run of zero groups may be left out as two colons, and the last two groups may be written
like an address of version 4.

The text of a version 6 address leaves out its longest run of at least two zero groups, the first
of several; an address that stands for one of version 4 shows it.
-/

namespace ReportRules.Config

/-- A network address. -/
inductive Address
  /-- Four numbers below 256. -/
  | v4 (parts : List Nat)
  /-- Eight numbers below 65536. -/
  | v6 (groups : List Nat)
  deriving Repr, DecidableEq

namespace Address

/-! ## Reading

Each reader takes something off the front of a text and returns it with the text behind it. -/

/-- A number at the front of a text: all digits there are, at most `most` of them. -/
def readNumber (isDigit : Char → Bool) (base most : Nat) (leadingZeros : Bool)
    (cs : List Char) : Option (Nat × List Char) :=
  let digits := cs.takeWhile isDigit
  if digits.isEmpty || most < digits.length then none
  else if !leadingZeros && 1 < digits.length && digits.head? = some '0' then none
  else
    (digits.foldlM (fun n c => (Text.hexValue? c).map (base * n + ·)) 0).map fun n =>
      (n, cs.dropWhile isDigit)

/-- A part of a version 4 address. -/
def readPart (cs : List Char) : Option (Nat × List Char) :=
  match readNumber Text.isFigure 10 3 false cs with
  | some (n, rest) => if n < 256 then some (n, rest) else none
  | none => none

/-- A group of a version 6 address. -/
def readGroup : List Char → Option (Nat × List Char) :=
  readNumber (fun c => (Text.hexValue? c).isSome) 16 4 true

/-- The text behind a separator; there is none before the first of several things. -/
def behind (separator : Char) (first : Bool) (cs : List Char) : Option (List Char) :=
  if first then some cs
  else
    match cs with
    | c :: rest => if c == separator then some rest else none
    | [] => none

/-- The given number of parts of a version 4 address. -/
def readParts (first : Bool) : Nat → List Char → Option (List Nat × List Char)
  | 0, cs => some ([], cs)
  | count + 1, cs => do
    let cs ← behind '.' first cs
    let (part, cs) ← readPart cs
    let (parts, cs) ← readParts false count cs
    some (part :: parts, cs)

/-- A version 4 address at the front of a text. -/
def readV4 (cs : List Char) : Option (List Nat × List Char) :=
  readParts true 4 cs

/-- A version 4 address as two groups. -/
def asGroups : List Nat → List Nat
  | [a, b, c, d] => [256 * a + b, 256 * c + d]
  | _ => []

/-- Groups at the front of a text. -/
structure Groups where
  groups : List Nat
  /-- Whether the last two are written like a version 4 address. -/
  embedded : Bool
  rest : List Char

/-- At most `limit` groups, as many as there are. -/
def readGroups (first : Bool) : Nat → List Char → Groups
  | 0, cs => ⟨[], false, cs⟩
  | limit + 1, cs =>
    let next := behind ':' first cs
    match (if 0 < limit then next.bind readV4 else none) with
    | some (parts, rest) => ⟨asGroups parts, true, rest⟩
    | none =>
      match next.bind readGroup with
      | some (group, rest) =>
        let more := readGroups false limit rest
        { more with groups := group :: more.groups }
      | none => ⟨[], false, cs⟩

/-- A version 6 address at the front of a text. -/
def readV6 (cs : List Char) : Option (List Nat × List Char) :=
  let head := readGroups true 8 cs
  if head.groups.length = 8 then some (head.groups, head.rest)
  else if head.embedded then none
  else
    match head.rest with
    | ':' :: ':' :: rest =>
      let tail := readGroups true (7 - head.groups.length) rest
      let zeros := 8 - head.groups.length - tail.groups.length
      some (head.groups ++ List.replicate zeros 0 ++ tail.groups, tail.rest)
    | _ => none

/-- The address that a whole text writes. -/
def read? (text : String) : Option Address :=
  let cs := text.toList
  match readV4 cs, readV6 cs with
  | some (parts, rest), _ => if rest.isEmpty then some (.v4 parts) else none
  | none, some (groups, []) => some (.v6 groups)
  | none, _ => none

/-! ## Writing -/

/-- The text of a version 4 address. -/
def partsText (parts : List Nat) : String :=
  ".".intercalate (parts.map Text.natText)

/-- Groups with colons between them. -/
def groupsText (groups : List Nat) : String :=
  ":".intercalate (groups.map fun n => String.ofList (Nat.toDigits 16 n))

/-- The number of zero groups at the front. -/
def zeroRun (groups : List Nat) : Nat :=
  (groups.takeWhile (· == 0)).length

/-- The length of the longest run of zero groups. -/
def longestZeroRun : List Nat → Nat
  | [] => 0
  | groups@(_ :: rest) => max (zeroRun groups) (longestZeroRun rest)

/-- The groups before the first run of the given length, and those after it. -/
def cutAtRun (length : Nat) : List Nat → List Nat × List Nat
  | [] => ([], [])
  | groups@(g :: rest) =>
    if zeroRun groups = length then ([], groups.drop length)
    else
      let (before, after) := cutAtRun length rest
      (g :: before, after)

/-- The text of a version 6 address. -/
def groupsAddressText (groups : List Nat) : String :=
  match groups with
  | [0, 0, 0, 0, 0, 65535, high, low] =>
    "::ffff:" ++ partsText [high / 256, high % 256, low / 256, low % 256]
  | _ =>
    let longest := longestZeroRun groups
    if 1 < longest then
      let (before, after) := cutAtRun longest groups
      groupsText before ++ "::" ++ groupsText after
    else groupsText groups

/-- An address with a port. -/
def textWithPort (a : Address) (port : Nat) : String :=
  let address := match a with
    | .v4 parts => partsText parts
    | .v6 groups => "[" ++ groupsAddressText groups ++ "]"
  address ++ ":" ++ Text.natText port

end Address

end ReportRules.Config
