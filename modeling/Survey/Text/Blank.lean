/-!
# Blank characters

The characters of the Unicode property White_Space, and the trimming of a text by them.
A number typed by a respondent is read after this trimming, so a no-break space or an
ideographic space around the digits is harmless.
-/

namespace Survey

/-- Whether a character has the Unicode property White_Space: the ASCII controls from tab to
carriage return, the space, next line, no-break space, ogham space, the spaces from en quad to
hair space, the line and paragraph separators, the narrow no-break space, the medium
mathematical space and the ideographic space. -/
def isBlank (c : Char) : Bool :=
  let n := c.toNat
  (0x09 ≤ n && n ≤ 0x0D) || n == 0x20 || n == 0x85 || n == 0xA0 || n == 0x1680 ||
    (0x2000 ≤ n && n ≤ 0x200A) || n == 0x2028 || n == 0x2029 || n == 0x202F ||
    n == 0x205F || n == 0x3000

/-- The characters of a text without its leading and trailing blanks. -/
def trimBlank (cs : List Char) : List Char :=
  ((cs.dropWhile isBlank).reverse.dropWhile isBlank).reverse

end Survey
