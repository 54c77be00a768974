/-
White space: the 25 characters of the Unicode property White_Space, and
trimming them from text.
-/

namespace TableApi.Text

/-- The characters of the property White_Space. -/
def isBlank (c : Char) : Bool :=
  let n := c.toNat
  (9 ≤ n ∧ n ≤ 13) ∨ n = 0x20 ∨ n = 0x85 ∨ n = 0xA0 ∨ n = 0x1680
    ∨ (0x2000 ≤ n ∧ n ≤ 0x200A) ∨ n = 0x2028 ∨ n = 0x2029 ∨ n = 0x202F
    ∨ n = 0x205F ∨ n = 0x3000

/-- The text without the white space at its two ends. -/
def trim (cs : List Char) : List Char :=
  ((cs.dropWhile isBlank).reverse.dropWhile isBlank).reverse

/-- White space and nothing else, or nothing at all. -/
def isAllBlank (cs : List Char) : Bool := cs.all isBlank

end TableApi.Text
