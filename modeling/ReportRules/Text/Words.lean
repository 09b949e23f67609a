import ReportRules.Text.Blank
import ReportRules.Text.Uppercase

/-!
# ReportRules.Text.Words -- texts cut at separators, and field ids as people read them

`pieces p cs` cuts `cs` at every character that satisfies `p` and drops these characters. There is
always one piece more than there are separators; two neighbouring separators have an empty piece
between them.

A field id such as `overflow_notes` is shown as `Overflow Notes`: the id is cut into words at
underscores, hyphens and white space, each word gets an upper-case first character and keeps the
rest, and single spaces join the words again.
-/

namespace ReportRules.Text

/-- The text before the first separator, and the pieces after it. -/
def firstPiece (p : Char → Bool) : List Char → List Char × List (List Char)
  | [] => ([], [])
  | c :: rest =>
    let (first, later) := firstPiece p rest
    if p c then ([], first :: later) else (c :: first, later)

/-- All pieces between separators, in order. -/
def pieces (p : Char → Bool) (cs : List Char) : List (List Char) :=
  let (first, later) := firstPiece p cs
  first :: later

/-! ## Labels -/

/-- The characters between the words of a field id. -/
def isSeparator (c : Char) : Bool :=
  c == '_' || c == '-' || isBlank c

/-- The words of a field id in order, without the separators and without empty words. -/
def words (cs : List Char) : List (List Char) :=
  (pieces isSeparator cs).filter (!·.isEmpty)

/-- A word with an upper-case first character. -/
def capitalized : List Char → List Char
  | [] => []
  | c :: rest => upperChar c ++ rest

/-- The human readable form of a field id. -/
def label (id : String) : String :=
  String.ofList ([' '].intercalate ((words id.toList).map capitalized))

end ReportRules.Text
