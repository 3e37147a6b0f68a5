/-
# Blank characters

The characters with the White_Space property, and the trimming of texts at their ends.
-/

namespace Intercept.Text

/-- Whether a character is blank. -/
def isBlank (c : Char) : Bool :=
  let n := c.toNat
  (9 ≤ n && n ≤ 13) || n == 0x20 || n == 0x85 || n == 0xa0 || n == 0x1680
    || (0x2000 ≤ n && n ≤ 0x200a) || n == 0x2028 || n == 0x2029 || n == 0x202f || n == 0x205f
    || n == 0x3000

/-- Whether a text consists of blank characters only, the empty text included. -/
def isAllBlank (text : String) : Bool := text.toList.all isBlank

/-- A text without the blank characters at its end. -/
def trimEnd (text : String) : String :=
  String.ofList (text.toList.reverse.dropWhile isBlank).reverse

end Intercept.Text
