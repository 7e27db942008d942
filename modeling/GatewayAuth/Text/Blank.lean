import GatewayAuth.Text.Ranges

/-!
# `GatewayAuth.Text.Blank` — white space

The characters with the Unicode property `White_Space`, and trimming by it.
-/

namespace GatewayAuth.Text

/-- The code points of white space. -/
def blankRanges : Ranges := [
  (0x9, 0xD), (0x20, 0x20), (0x85, 0x85), (0xA0, 0xA0), (0x1680, 0x1680), (0x2000, 0x200A),
  (0x2028, 0x2029), (0x202F, 0x202F), (0x205F, 0x205F), (0x3000, 0x3000)]

/-- Whether a character is white space. -/
def isBlank (c : Char) : Bool := inRanges blankRanges c.toNat

/-- The characters without white space at the front. -/
def trimStart (cs : List Char) : List Char := cs.dropWhile isBlank

/-- The characters without white space at the back. -/
def trimEnd (cs : List Char) : List Char := (cs.reverse.dropWhile isBlank).reverse

/-- The characters without white space at either end. -/
def trim (cs : List Char) : List Char := trimEnd (trimStart cs)

end GatewayAuth.Text
