import DocumentQuery.Text.CharRange

/-!
# White space

The characters with the Unicode property White_Space, and the removal of those at the ends of a
text.
-/

namespace DocumentQuery.Text

/-- The code points of white space. -/
def blankRanges : List (Nat × Nat) := [
  (0x9, 0xd), (0x20, 0x20), (0x85, 0x85), (0xa0, 0xa0), (0x1680, 0x1680), (0x2000, 0x200a),
  (0x2028, 0x2029), (0x202f, 0x202f), (0x205f, 0x205f), (0x3000, 0x3000)]

def isBlank (c : Char) : Bool := inRanges blankRanges c

/-- The text without white space at its ends. -/
def trim (s : List Char) : List Char :=
  (((s.dropWhile isBlank).reverse).dropWhile isBlank).reverse

end DocumentQuery.Text
