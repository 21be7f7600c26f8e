/-
# White space

The characters of the Unicode property `White_Space`, which is wider than the blank and the
controls of ASCII.
-/

import ContentQuery.Text.CodePoints

namespace ContentQuery.Text

/-- The code points with the property `White_Space`. -/
def whiteSpace : CodePoints := [
  (0x9, 0xD), (0x20, 0x20), (0x85, 0x85), (0xA0, 0xA0), (0x1680, 0x1680), (0x2000, 0x200A),
  (0x2028, 0x2029), (0x202F, 0x202F), (0x205F, 0x205F), (0x3000, 0x3000)
]

/-- Whether a character has the property `White_Space`. -/
def isWhiteSpace (c : Char) : Bool := whiteSpace.has c

end ContentQuery.Text
