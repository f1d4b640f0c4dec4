/-!
# Blank characters

Two classes of blank are in use. `isSpace` is the class of white space proper, which numbers may be
surrounded by; `isBlank` adds the four separators U+001C to U+001F and is the class that is trimmed
from text. A zero-width space belongs to neither.
-/

namespace Signpost.Text

/-- White space, as numbers may be surrounded by. -/
def isSpace (c : Char) : Bool :=
  let n := c.toNat
  (0x09 ≤ n && n ≤ 0x0D) || n == 0x20 || n == 0x85 || n == 0xA0 || n == 0x1680 ||
    (0x2000 ≤ n && n ≤ 0x200A) || n == 0x2028 || n == 0x2029 || n == 0x202F || n == 0x205F ||
    n == 0x3000

/-- White space and the four separators U+001C to U+001F, as trimming removes. -/
def isBlank (c : Char) : Bool :=
  isSpace c || (0x1C ≤ c.toNat && c.toNat ≤ 0x1F)

/-- Drops the characters of a class from both ends. -/
def trimWhere (drop : Char → Bool) (s : List Char) : List Char :=
  (((s.dropWhile drop).reverse).dropWhile drop).reverse

/-- Drops the characters of a class from the right end. -/
def trimRightWhere (drop : Char → Bool) (s : List Char) : List Char :=
  ((s.reverse).dropWhile drop).reverse

/-- Text without the blanks at its ends. -/
def trim (s : List Char) : List Char :=
  trimWhere isBlank s

end Signpost.Text
