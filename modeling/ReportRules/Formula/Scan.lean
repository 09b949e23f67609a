import ReportRules.Formula.Token
import ReportRules.Text.Blank
import ReportRules.Text.Figures

/-!
# ReportRules.Formula.Scan -- a formula text cut into tokens

Tokens are the six symbols, maximal runs of figures and points, and names in braces; a name ends at
the first closing brace, whatever it contains. White space between tokens is dropped. Scanning ends
with the text or at the first character that starts no token; the tokens before it are kept.
-/

namespace ReportRules.Formula

/-- Why no token starts at some place. Offsets count the bytes of the text in UTF-8. -/
inductive ScanFault
  /-- A brace opens a name and none closes it. -/
  | unterminated (offset : Nat)
  /-- The character starts no token. -/
  | unexpected (found : Char) (offset : Nat)
  deriving Repr, DecidableEq

/-- What scanning a text comes to. -/
structure Scanned where
  tokens : List (Token Operand)
  fault : Option ScanFault
  deriving Repr, DecidableEq

/-- The same, with one more token in front. -/
def Scanned.cons (t : Token Operand) (s : Scanned) : Scanned :=
  { s with tokens := t :: s.tokens }

/-- The bytes of characters in UTF-8. -/
def byteCount (cs : List Char) : Nat :=
  cs.foldr (fun c n => c.utf8Size + n) 0

/-- The characters of a number literal. -/
def isLiteralChar (c : Char) : Bool :=
  Text.isFigure c || c == '.'

/-- The character before the name in a placeholder. -/
def nameOpening : Char :=
  '\x7b'

/-- The character after the name in a placeholder. -/
def nameClosing : Char :=
  '\x7d'

/-- The characters of a name. -/
def isNameChar (c : Char) : Bool :=
  c != nameClosing

/-- Dropping characters makes a text no longer. -/
theorem length_dropWhile_le (p : Char → Bool) (cs : List Char) :
    (cs.dropWhile p).length ≤ cs.length :=
  (List.dropWhile_suffix p).length_le

/-- Scan the characters of a text that begin at the given offset. -/
def scanFrom (offset : Nat) (cs : List Char) : Scanned :=
  match cs with
  | [] => ⟨[], none⟩
  | c :: rest =>
    if Text.isBlank c then scanFrom (offset + c.utf8Size) rest
    else if let some s := Symbol.ofChar? c then
      (scanFrom (offset + c.utf8Size) rest).cons (.symbol s)
    else if c = nameOpening then
      match _found : rest.dropWhile isNameChar with
      | [] => ⟨[], some (.unterminated offset)⟩
      | closing :: more =>
        let name := rest.takeWhile isNameChar
        (scanFrom (offset + byteCount (c :: name ++ [closing])) more).cons
          (.operand (.placeholder name))
    else if isLiteralChar c then
      let run := c :: rest.takeWhile isLiteralChar
      (scanFrom (offset + byteCount run) (rest.dropWhile isLiteralChar)).cons
        (.operand (.literal run))
    else ⟨[], some (.unexpected c offset)⟩
termination_by cs.length
decreasing_by
  · simp
  · simp
  · have := length_dropWhile_le isNameChar rest
    rw [_found] at this
    simp only [List.length_cons] at this ⊢
    omega
  · have := length_dropWhile_le isLiteralChar rest
    simp only [List.length_cons]
    omega

/-- Scan a text. -/
def scan (text : String) : Scanned :=
  scanFrom 0 text.toList

end ReportRules.Formula
