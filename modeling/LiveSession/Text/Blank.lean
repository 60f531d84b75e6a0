/-!
# Blank characters and trimming

`isBlank` is the Unicode `White_Space` property: the ASCII tab, line feed, vertical tab, form
feed, carriage return and space, next line (U+0085), no-break space (U+00A0), the ogham space
mark, the general-punctuation spaces U+2000–U+200A, the line and paragraph separators, the narrow
no-break space, the medium mathematical space and the ideographic space. Trimming removes these
from the ends of a string.
-/

namespace LiveSession.Text

/-- Whether a character has the Unicode `White_Space` property. -/
def isBlank (c : Char) : Bool :=
  let n := c.toNat
  (9 ≤ n && n ≤ 13) || n == 32 || n == 0x85 || n == 0xA0 || n == 0x1680 ||
    (0x2000 ≤ n && n ≤ 0x200A) || n == 0x2028 || n == 0x2029 || n == 0x202F ||
    n == 0x205F || n == 0x3000

/-- Drops blank characters from the start. -/
def trimStart (s : String) : String := String.ofList (s.toList.dropWhile isBlank)

/-- Drops blank characters from the end. -/
def trimEnd (s : String) : String :=
  String.ofList (s.toList.reverse.dropWhile isBlank).reverse

/-- Drops blank characters from both ends. -/
def trim (s : String) : String := trimEnd (trimStart s)

/-- Lowercases the ASCII letters and keeps every other character. -/
def asciiLower (s : String) : String :=
  String.ofList (s.toList.map fun c => if 'A' ≤ c && c ≤ 'Z' then Char.ofNat (c.toNat + 32) else c)

/-- Whether a string is empty once trimmed. -/
def isBlankText (s : String) : Bool := s.toList.all isBlank

/-- Drops one `\r` at the end of a line. -/
def dropCarriageReturn (line : List Char) : List Char :=
  if line.getLast? == some '\r' then line.dropLast else line

/-- Splits a string into lines at each `\n`, dropping one `\r` before it; a final line break
does not start an empty last line. -/
def lines (s : String) : List String :=
  let parts := s.toList.splitOn '\n'
  let ended := parts.dropLast.map dropCarriageReturn
  let tail := parts.getLast?.getD []
  (if tail.isEmpty then ended else ended ++ [tail]).map String.ofList

end LiveSession.Text
