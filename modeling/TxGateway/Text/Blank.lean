/-!
# White space

The white space of Unicode, and the trimming of a text at both ends. Zero-width characters and the
information separators are not white space.
-/

namespace TxGateway.Text

/-- The characters with the property `White_Space`. -/
def isBlank (c : Char) : Bool :=
  let code := c.toNat
  (0x9 ≤ code && code ≤ 0xd) || code == 0x20 || code == 0x85 || code == 0xa0 || code == 0x1680 ||
    (0x2000 ≤ code && code ≤ 0x200a) || code == 0x2028 || code == 0x2029 || code == 0x202f ||
    code == 0x205f || code == 0x3000

/-- Drops the white space at the end of a text. -/
def trimEnd (text : List Char) : List Char :=
  (text.reverse.dropWhile isBlank).reverse

/-- Drops the white space at both ends of a text and keeps all that lies between. -/
def trim (text : List Char) : List Char :=
  trimEnd (text.dropWhile isBlank)

end TxGateway.Text
