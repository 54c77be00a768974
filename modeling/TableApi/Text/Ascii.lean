/-
Letters of the ASCII range: upper case, lower case, and comparison that
ignores the difference. Characters beyond ASCII stay as they are.
-/

namespace TableApi.Text

/-- Lower case of the letters A to Z. -/
def asciiLower (cs : List Char) : List Char := cs.map Char.toLower

/-- Equality up to the case of the letters A to Z. -/
def sameAscii (a b : List Char) : Bool := asciiLower a == asciiLower b

end TableApi.Text
