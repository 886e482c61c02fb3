import LayoutRules.Text.Ranges

/-!
# Blanks

A blank is a character with the Unicode property White_Space. Blanks
separate the parts of a rule and may surround it.
-/

namespace LayoutRules
namespace Text

/-- The code points with the property White_Space. -/
def blankRanges : Ranges where
  bounds := [
    (0x0009, 0x000D), (0x0020, 0x0020), (0x0085, 0x0085), (0x00A0, 0x00A0),
    (0x1680, 0x1680), (0x2000, 0x200A), (0x2028, 0x2029), (0x202F, 0x202F),
    (0x205F, 0x205F), (0x3000, 0x3000)]

/-- A blank is a character with the property White_Space. -/
def isBlank (c : Char) : Bool :=
  blankRanges.contains c

/-- The text without the blanks that surround it. -/
def trim (text : List Char) : List Char :=
  ((text.dropWhile isBlank).reverse.dropWhile isBlank).reverse

end Text
end LayoutRules
