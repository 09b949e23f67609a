import ReportRules.Decimal.Numeral
import ReportRules.Json.Document

/-!
# ReportRules.Json.Reader -- reading a text into a document

`Source.read` reads a text: one value, and the fault that its trailing characters are, if there are
any. The reader never fails; whatever is wrong with the text becomes part of the document.

Of a number the reader keeps a significand of 64 bits and a power of ten. A number that is no
integer of 64 bits is made a double of these two, not of all its figures.

Nested values are read by three functions that call each other. Each step takes at least one
character, so the number of characters bounds the number of steps, and that number is the first
argument of all three.
-/

namespace ReportRules.Json

namespace Reader

/-- A document together with the text after it; without such a text, reading stopped in it. -/
abbrev Result (α : Type) :=
  α × Option (List Char)

/-- The white space of JSON. -/
def isSpace (c : Char) : Bool :=
  c == ' ' || c == '\n' || c == '\t' || c == '\r'

/-- Drop white space. -/
def dropSpace (cs : List Char) : List Char :=
  cs.dropWhile isSpace

/-- A value that stops with one fault, wanted or not. -/
def stop (first : Option Char) (fault : Fault) : Result Document :=
  (.broken first fault fault, none)

/-! ## Literals -/

/-- Read the remaining characters of a literal. -/
def readLiteral (first : Char) (value : Document) : List Char → List Char → Result Document
  | [], rest => (value, some rest)
  | _ :: _, [] => stop (some first) (.cutOff .value)
  | expected :: more, c :: rest =>
    if c == expected then readLiteral first value more rest
    else stop (some first) .expectedLiteral

/-! ## Strings -/

/-- What is wrong with a string that is wanted, and the high half of a surrogate pair whose low
half has to come next. -/
structure StringState where
  /-- The characters so far, last one first. -/
  taken : List Char
  /-- The first fault that spoils the string. -/
  spoilt : Option Fault
  /-- The high half of a surrogate pair. -/
  high : Option Nat

/-- The characters of a string as far as they are read, and the text after the closing quote or
the fault that came before it. -/
structure StringScan where
  text : Except Fault String
  after : Except Fault (List Char)

/-- Mark a string as spoilt; the first mark stays. -/
def StringState.spoil (s : StringState) (fault : Fault) : StringState :=
  { s with spoilt := some (s.spoilt.getD fault), high := none }

/-- Take a character that is not an escape of a surrogate. -/
def StringState.push (s : StringState) (c : Char) : StringState :=
  let s := if s.high.isSome then s.spoil .unpairedSurrogate else s
  { s with taken := c :: s.taken }

/-- Take a code unit given by its number. -/
def StringState.pushUnit (s : StringState) (n : Nat) : StringState :=
  match s.high with
  | some high =>
    if 0xDC00 ≤ n && n ≤ 0xDFFF then
      let code := (high - 0xD800) * 0x400 + (n - 0xDC00) + 0x10000
      { s with taken := Char.ofNat code :: s.taken, high := none }
    else s.spoil .loneSurrogate
  | none =>
    if 0xDC00 ≤ n && n ≤ 0xDFFF then s.spoil .loneSurrogate
    else if 0xD800 ≤ n && n ≤ 0xDBFF then
      if s.spoilt.isSome then s else { s with high := some n }
    else { s with taken := Char.ofNat n :: s.taken }

/-- Stop in a string with a fault that is there whether the string is wanted or not. -/
def StringState.stop (s : StringState) (fault : Fault) : StringScan :=
  ⟨.error (s.spoilt.getD fault), .error fault⟩

/-- Reach the closing quote of a string. -/
def StringState.finish (s : StringState) (rest : List Char) : StringScan :=
  let s := if s.high.isSome then s.spoil .unpairedSurrogate else s
  match s.spoilt with
  | some fault => ⟨.error fault, .ok rest⟩
  | none => ⟨.ok (String.ofList s.taken.reverse), .ok rest⟩

/-- The character that a short escape stands for. -/
def shortEscape? (c : Char) : Option Char :=
  if c == '"' || c == '\\' || c == '/' then some c
  else if c == 'b' then some (Char.ofNat 8)
  else if c == 'f' then some (Char.ofNat 12)
  else if c == 'n' then some '\n'
  else if c == 'r' then some '\r'
  else if c == 't' then some '\t'
  else none

/-- Read a string behind its opening quote. A numeric escape has four digits; where fewer than four
bytes of text are left the text is cut off. -/
def readString (s : StringState) : List Char → StringScan
  | [] => s.stop (.cutOff .string)
  | '"' :: rest => s.finish rest
  | ['\\'] => s.stop (.cutOff .string)
  | '\\' :: 'u' :: a :: b :: c :: d :: rest =>
    match Text.hexNumber? [a, b, c, d] with
    | some n => readString (s.pushUnit n) rest
    | none => s.stop .invalidEscape
  | '\\' :: 'u' :: rest =>
    if (String.ofList rest).utf8ByteSize < 4 then s.stop (.cutOff .string)
    else s.stop .invalidEscape
  | '\\' :: c :: rest =>
    let s := if s.high.isSome then s.spoil .unpairedSurrogate else s
    match shortEscape? c with
    | some e => readString (s.push e) rest
    | none => s.stop .invalidEscape
  | c :: rest =>
    if c.toNat < 0x20 then (s.push ' ').stop .controlCharacter
    else readString (s.push c) rest

/-- Read a string value behind its opening quote. -/
def readStringValue (cs : List Char) : Result Document :=
  match readString ⟨[], none, none⟩ cs with
  | ⟨.ok s, .ok rest⟩ => (.str s, some rest)
  | ⟨.error fault, .ok rest⟩ => (.lax fault (.str ""), some rest)
  | ⟨.error wanted, .error passed⟩ => (.broken (some '"') wanted passed, none)
  | ⟨.ok _, .error passed⟩ => (.broken (some '"') passed passed, none)

/-! ## Numbers -/

/-- A number that stops: cut off when wanted at the end of the text, otherwise malformed. -/
def stopNumber (first : Char) (rest : List Char) : Result Document :=
  (.broken (some first) (if rest.isEmpty then .cutOff .value else .invalidNumber) .invalidNumber,
    none)

/-- Take figures behind a significand as long as 64 bits hold it; the figures that are left are
returned with it. -/
def takeFigures (significand : Nat) : List Char → Nat × List Char
  | [] => (significand, [])
  | c :: rest =>
    let longer := 10 * significand + Text.figureValue c
    if longer < Decimal.twoTo 64 then takeFigures longer rest else (significand, c :: rest)

/-- The double nearest to a power of ten. -/
def powerOfTen (n : Nat) : Float :=
  Decimal.Numeral.toFloat ⟨false, 1, n⟩

/-- A double times a power of ten. The largest power of ten that is a double is `10^308`; for a
power below its inverse the double is divided by `10^308` first, and again, `turns` times at
most. -/
def scaled : Nat → Float → Int → Float
  | 0, x, _ => x
  | turns + 1, x, exponent =>
    if exponent.natAbs ≤ 308 then
      if 0 ≤ exponent then x * powerOfTen exponent.natAbs else x / powerOfTen exponent.natAbs
    else if x == 0 then x
    else if 0 ≤ exponent then 1 / 0
    else scaled turns (x / powerOfTen 308) (exponent + 308)

/-- The double that a number of a text is read as. The significand is rounded to a double, and so is
the result of moving it by the power of ten; where the significand or the power is no double this
can be a neighbour of the double nearest to the number. -/
def double (n : Decimal.Numeral) : Float :=
  let size := scaled (n.exponent.natAbs / 308 + 1) (Float.ofNat n.significand) n.exponent
  if n.negative then -size else size

/-- A number without point and exponent, as an integer where 64 bits hold it. Minus zero is a
double, and so is a number with more figures than were taken. -/
def integerOrDouble (n : Decimal.Numeral) : Number :=
  if n.exponent ≠ 0 then .float (double n)
  else if n.negative then
    if 0 < n.significand && n.significand ≤ Decimal.twoTo 63 then .int (-(n.significand : Int))
    else .float (double n)
  else .int n.significand

/-- A number as a document; one beyond the largest double can only be passed over. -/
def numberDocument : Number → Document
  | .int n => .num (.int n)
  | .float x => if x.isFinite then .num (.float x) else .lax .numberOutOfRange (.num (.float 0))

/-- Read the exponent of a number behind its mark, and finish the number. -/
def readExponent (first : Char) (n : Decimal.Numeral) (cs : List Char) : Result Document :=
  let (negative, rest) := Decimal.Numeral.takeSign cs
  let figures := rest.takeWhile Text.isFigure
  if figures.isEmpty then stopNumber first rest
  else
    let size : Int := Text.figuresValue figures
    let exponent := n.exponent + (if negative then -size else size)
    (numberDocument (.float (double { n with exponent })), some (rest.dropWhile Text.isFigure))

/-- Read what follows the integer part of a number. Figures behind the point are taken while the
significand has room for them, and the others are ignored. -/
def readAfterInteger (first : Char) (n : Decimal.Numeral) : List Char → Result Document
  | '.' :: rest =>
    let figures := rest.takeWhile Text.isFigure
    let after := rest.dropWhile Text.isFigure
    if figures.isEmpty then stopNumber first after
    else
      let (significand, left) := takeFigures n.significand figures
      let taken : Int := (figures.length - left.length : Nat)
      let whole : Decimal.Numeral := { n with significand, exponent := n.exponent - taken }
      match after with
      | 'e' :: more | 'E' :: more => readExponent first whole more
      | _ => (numberDocument (.float (double whole)), some after)
  | 'e' :: rest | 'E' :: rest => readExponent first n rest
  | rest => (numberDocument (integerOrDouble n), some rest)

/-- Read a number behind its sign. A zero at the front stands alone. Figures of the integer part
that do not fit the significand count as zeros. -/
def readNumber (first : Char) (negative : Bool) (cs : List Char) : Result Document :=
  match cs.takeWhile Text.isFigure with
  | [] => stopNumber first cs
  | '0' :: _ :: _ => stop (some first) .invalidNumber
  | figures =>
    let (significand, left) := takeFigures 0 figures
    readAfterInteger first ⟨negative, significand, left.length⟩ (cs.dropWhile Text.isFigure)

/-! ## Values -/

/-- Beyond the nesting limit a container can only be passed over. -/
def nested (level : Nat) (d : Document) : Document :=
  if level < nestingLimit then d else .lax .nestingTooDeep d

/-- A value other than an array or an object, given by its first character. -/
def readScalar (c : Char) (rest : List Char) : Result Document :=
  if c == '"' then readStringValue rest
  else if c == 'n' then readLiteral c .null ['u', 'l', 'l'] rest
  else if c == 't' then readLiteral c (.bool true) ['r', 'u', 'e'] rest
  else if c == 'f' then readLiteral c (.bool false) ['a', 'l', 's', 'e'] rest
  else if c == '-' then readNumber c true rest
  else if Text.isFigure c then readNumber c false (c :: rest)
  else stop (some c) .expectedValue

mutual
/-- Read a value inside `level` open containers. -/
def readValue : Nat → Nat → List Char → Result Document
  | 0, _, _ => stop none (.cutOff .value)
  | steps + 1, level, cs =>
    match dropSpace cs with
    | [] => stop none (.cutOff .value)
    | '[' :: rest =>
      let ((items, ending), after) :=
        match dropSpace rest with
        | [] => (([], .broken (.cutOff .list) (.cutOff .list)), none)
        | ']' :: more => (([], .closed), some more)
        | more => readItems steps (level + 1) more
      (nested level (.arr items ending), after)
    | '\x7b' :: rest =>
      match dropSpace rest with
      | [] =>
        (nested level (.obj [] (.broken (.cutOff .object) (.cutOff .object))), none)
      | '\x7d' :: more => (nested level (.obj [] .closed), some more)
      | '"' :: more =>
        let ((members, ending), after) := readMembers steps (level + 1) more
        (nested level (.obj members ending), after)
      | _ => (nested level (.obj [] (.broken .keyNotText .keyNotText)), none)
    | c :: rest => readScalar c rest

/-- Read the elements of an array up to its end. -/
def readItems : Nat → Nat → List Char → Result (List Document × Ending)
  | 0, _, _ => (([], .broken (.cutOff .list) (.cutOff .list)), none)
  | steps + 1, level, cs =>
    let (item, after) := readValue steps level cs
    match after.map dropSpace with
    | none => (([item], .closed), none)
    | some [] => (([item], .broken (.cutOff .list) (.cutOff .list)), none)
    | some (']' :: rest) => (([item], .closed), some rest)
    | some (',' :: rest) =>
      match dropSpace rest with
      | [] => (([item, .broken none (.cutOff .value) (.cutOff .value)], .closed), none)
      | ']' :: _ => (([item, .broken (some ']') .trailingComma .expectedValue], .closed), none)
      | more =>
        let ((items, ending), after) := readItems steps level more
        ((item :: items, ending), after)
    | some (_ :: _) => (([item], .broken .expectedListSeparator .expectedListSeparator), none)

/-- Read the members of an object up to its end, behind the opening quote of a key. -/
def readMembers : Nat → Nat → List Char → Result (List (Key × Document) × Ending)
  | 0, _, _ => (([], .broken (.cutOff .object) (.cutOff .object)), none)
  | steps + 1, level, cs =>
    match readString ⟨[], none, none⟩ cs with
    | ⟨text, .error passed⟩ =>
      let wanted := match text with
        | .error wanted => wanted
        | .ok _ => passed
      (([], .broken wanted passed), none)
    | ⟨text, .ok afterKey⟩ =>
      let key : Key := match text with
        | .ok s => .text s
        | .error fault => .spoilt fault
      let (value, after) : Result Document :=
        match dropSpace afterKey with
        | [] => stop none (.cutOff .object)
        | ':' :: rest => readValue steps level rest
        | _ => stop none .expectedColon
      let member := (key, value)
      match after.map dropSpace with
      | none => (([member], .closed), none)
      | some [] => (([member], .broken (.cutOff .object) (.cutOff .object)), none)
      | some ('\x7d' :: rest) => (([member], .closed), some rest)
      | some (',' :: rest) =>
        match dropSpace rest with
        | [] => (([member], .afterComma (.cutOff .value) (.cutOff .object)), none)
        | '"' :: more =>
          let ((members, ending), after) := readMembers steps level more
          ((member :: members, if members.isEmpty then ending.behindComma else ending), after)
        | '\x7d' :: _ => (([member], .afterComma .trailingComma .keyNotText), none)
        | _ => (([member], .afterComma .keyNotText .keyNotText), none)
      | some (_ :: _) =>
        (([member], .broken .expectedObjectSeparator .expectedObjectSeparator), none)
end

end Reader

/-- A text read as JSON: its first value, and whether other characters follow it. -/
structure Source where
  root : Document
  trailing : Bool

/-- Read a text. -/
def Source.read (s : String) : Source :=
  let cs := s.toList
  match Reader.readValue (2 * cs.length + 2) 0 cs with
  | (root, none) => ⟨root, false⟩
  | (root, some rest) => ⟨root, !(Reader.dropSpace rest).isEmpty⟩

end ReportRules.Json
