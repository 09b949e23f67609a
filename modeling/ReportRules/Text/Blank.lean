/-!
# ReportRules.Text.Blank -- white space, and text trimmed of it

White space is the Unicode property `White_Space` and nothing else: the zero-width space, the byte
order mark and the Mongolian vowel separator do not have it, the no-break spaces and the
ideographic space do. Everything in this library that trims, splits or asks whether a text is blank
goes through `isBlank`.
-/

namespace ReportRules.Text

/-- The twenty-five characters with the Unicode property `White_Space`. -/
def isBlank (c : Char) : Bool :=
  let n := c.toNat
  (9 ≤ n && n ≤ 13) || n == 0x20 || n == 0x85 || n == 0xA0 || n == 0x1680 ||
    (0x2000 ≤ n && n ≤ 0x200A) || n == 0x2028 || n == 0x2029 || n == 0x202F || n == 0x205F ||
    n == 0x3000

/-- Drop the white space before the first other character. -/
def trimStartChars (cs : List Char) : List Char :=
  cs.dropWhile isBlank

/-- Drop the white space on both sides. -/
def trimChars (cs : List Char) : List Char :=
  ((trimStartChars cs).reverse.dropWhile isBlank).reverse

/-- A text without the white space at its two ends. -/
def trim (s : String) : String :=
  String.ofList (trimChars s.toList)

/-- A text that holds nothing but white space. -/
def isBlankText (s : String) : Bool :=
  s.toList.all isBlank

/-- Lower-case the ASCII letters of a text and leave every other character alone. -/
def lowerAscii (s : String) : String :=
  String.ofList (s.toList.map Char.toLower)

/-- Whether `needle` occurs in `haystack` as a contiguous run; the empty text occurs everywhere. -/
def occursIn (needle : List Char) : List Char → Bool
  | [] => needle.isEmpty
  | c :: rest => needle.isPrefixOf (c :: rest) || occursIn needle rest

/-- Whether a text contains another one. -/
def contains (haystack needle : String) : Bool :=
  occursIn needle.toList haystack.toList

end ReportRules.Text
