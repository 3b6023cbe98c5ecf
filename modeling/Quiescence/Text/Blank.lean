/-! # Blank characters

The characters with the Unicode property `White_Space`: the twenty-five code points below. A text
made of them alone counts as empty, and times may be surrounded by them.
-/

namespace Quiescence.Text

/-- The code points with the property `White_Space`, as inclusive ranges. -/
def blankRanges : List (Nat × Nat) :=
  [(0x09, 0x0D), (0x20, 0x20), (0x85, 0x85), (0xA0, 0xA0), (0x1680, 0x1680), (0x2000, 0x200A),
   (0x2028, 0x2029), (0x202F, 0x202F), (0x205F, 0x205F), (0x3000, 0x3000)]

/-- Whether `c` is white space in the sense of Unicode. -/
def isBlank (c : Char) : Bool :=
  blankRanges.any fun (low, high) => low ≤ c.toNat && c.toNat ≤ high

/-- Whether nothing but white space stands in the text. -/
def isBlankText (s : String) : Bool := s.toList.all isBlank

/-- The text after its leading white space. -/
def skipBlank (cs : List Char) : List Char := cs.dropWhile isBlank

end Quiescence.Text
