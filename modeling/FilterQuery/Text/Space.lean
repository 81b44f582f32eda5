/-! White space in the sense of the Unicode property of that name, and trimming
by it. The property has 25 characters in ten ranges. -/
namespace FilterQuery.Text

/-- The code points with the property White_Space, as closed ranges in ascending order. -/
def spaceRanges : List (Nat × Nat) :=
  [(0x09, 0x0D), (0x20, 0x20), (0x85, 0x85), (0xA0, 0xA0), (0x1680, 0x1680), (0x2000, 0x200A),
   (0x2028, 0x2029), (0x202F, 0x202F), (0x205F, 0x205F), (0x3000, 0x3000)]

/-- Whether a code point lies in one of the closed ranges. -/
def inRanges (ranges : List (Nat × Nat)) (code : Nat) : Bool :=
  ranges.any fun range => range.1 ≤ code && code ≤ range.2

/-- Whether the character is white space. -/
def isSpace (c : Char) : Bool := inRanges spaceRanges c.toNat

/-- Drops the white space at the start. -/
def trimStart (cs : List Char) : List Char := cs.dropWhile isSpace

/-- Drops the white space at both ends. -/
def trim (cs : List Char) : List Char := (trimStart (trimStart cs).reverse).reverse

end FilterQuery.Text
