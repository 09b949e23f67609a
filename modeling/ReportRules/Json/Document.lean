import ReportRules.Json.Fault
import ReportRules.Json.Value
import ReportRules.Keyed

/-!
# ReportRules.Json.Document -- what a text says, up to its first fault

A decoder reads a text from left to right and stops at the first problem, which may be a fault of
the text or a value of the wrong shape. A `Document` keeps both possible: it is the tree of a text
as far as the text is JSON, with the fault in the place where it stops.

Reading may want a value or merely pass over it, and passing over is more lenient: a number too
large for a double, half of a surrogate pair, and nesting beyond `nestingLimit` spoil only a value
that is wanted. Such a value is wrapped in `lax`.

`Document.keep` is the value that a document holds, `Document.pass` says whether it can be passed
over, and `Document.ofJson` is the document of a value, which holds that very value.
-/

namespace ReportRules.Json

/-- The number of arrays and objects that may be open around a wanted value. -/
def nestingLimit : Nat :=
  127

/-- How the list of elements or members of a document ends. -/
inductive Ending
  /-- With its closing bracket. -/
  | closed
  /-- With a fault right after the last element, or in front of the first one; which fault it is
  depends on whether the value is wanted. -/
  | broken (wanted passed : Fault)
  /-- With a fault after a comma. -/
  | afterComma (wanted passed : Fault)
  deriving Repr, DecidableEq

/-- The same ending, its fault behind a comma. -/
def Ending.behindComma : Ending → Ending
  | .broken wanted passed => .afterComma wanted passed
  | ending => ending

/-- The key of a member: a text, or one that is spoilt unless it is passed over. -/
inductive Key
  | text (s : String)
  | spoilt (fault : Fault)
  deriving Repr, DecidableEq

/-- The tree of a text as far as the text is JSON. -/
inductive Document
  | null
  | bool (b : Bool)
  | num (n : Number)
  | str (s : String)
  | arr (items : List Document) (ending : Ending)
  | obj (members : List (Key × Document)) (ending : Ending)
  /-- A value that stops with a fault; `first` is the character it begins with, if there is one. -/
  | broken (first : Option Char) (wanted passed : Fault)
  /-- A value that can be passed over but not be wanted. -/
  | lax (fault : Fault) (inner : Document)

namespace Document

instance : Inhabited Document :=
  ⟨.null⟩

mutual
/-- The value that a document holds. In objects a repeated key keeps its last value. -/
def keep : Document → Except Fault Json
  | .null => .ok .null
  | .bool b => .ok (.bool b)
  | .num n => .ok (.num n)
  | .str s => .ok (.str s)
  | .arr items ending => do
    let values ← keepItems items
    match ending with
    | .closed => .ok (.arr values)
    | .broken wanted _ | .afterComma wanted _ => .error wanted
  | .obj members ending => do
    let entries ← keepMembers members []
    match ending with
    | .closed => .ok (.obj entries)
    | .broken wanted _ | .afterComma wanted _ => .error wanted
  | .broken _ wanted _ => .error wanted
  | .lax fault _ => .error fault

/-- The values that a list of documents holds. -/
def keepItems : List Document → Except Fault (List Json)
  | [] => .ok []
  | d :: rest => do
    let value ← keep d
    let values ← keepItems rest
    .ok (value :: values)

/-- The members that a list of documents holds, put into ascending order. -/
def keepMembers : List (Key × Document) → List (String × Json) →
    Except Fault (List (String × Json))
  | [], entries => .ok entries
  | (.spoilt fault, _) :: _, _ => .error fault
  | (.text key, d) :: rest, entries => do
    let value ← keep d
    keepMembers rest (Keyed.insertEntry key value entries)
end

mutual
/-- Pass over a document. -/
def pass : Document → Except Fault Unit
  | .arr items ending => do
    passItems items
    match ending with
    | .closed => .ok ()
    | .broken _ passed | .afterComma _ passed => .error passed
  | .obj members ending => do
    passMembers members
    match ending with
    | .closed => .ok ()
    | .broken _ passed | .afterComma _ passed => .error passed
  | .broken _ _ passed => .error passed
  | .lax _ inner => pass inner
  | .null | .bool _ | .num _ | .str _ => .ok ()

/-- Pass over a list of documents. -/
def passItems : List Document → Except Fault Unit
  | [] => .ok ()
  | d :: rest => do
    pass d
    passItems rest

/-- Pass over a list of members; a spoilt key is no obstacle. -/
def passMembers : List (Key × Document) → Except Fault Unit
  | [] => .ok ()
  | (_, d) :: rest => do
    pass d
    passMembers rest
end

mutual
/-- The document of a value. -/
def ofJson : Json → Document
  | .null => .null
  | .bool b => .bool b
  | .num n => .num n
  | .str s => .str s
  | .arr items => .arr (ofItems items) .closed
  | .obj members => .obj (ofMembers members) .closed

/-- The documents of a list of values. -/
def ofItems : List Json → List Document
  | [] => []
  | x :: rest => ofJson x :: ofItems rest

/-- The documents of a list of members. -/
def ofMembers : List (String × Json) → List (Key × Document)
  | [] => []
  | (k, x) :: rest => (.text k, ofJson x) :: ofMembers rest
end

end Document

end ReportRules.Json
