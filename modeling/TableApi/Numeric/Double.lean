/-
Binary floating point with 53 significant bits, computed exactly.

A double is kept as its sign and its *magnitude*: the 63 low bits of
the interchange pattern read as a natural number. The magnitude is the
useful half of the format, because larger magnitudes are larger values
and neighbouring magnitudes are neighbouring values; so comparison is
comparison of integers, the next double is the next number, and the
shortest-digits search (`Numeric/Shortest`) needs no table.

Every finite magnitude `m` denotes `scaled m / 2 ^ 1074` with
`scaled m` a natural number. All arithmetic here forms the exact
quotient and rounds once, to nearest with ties to even
(`roundRatio`).
-/

namespace TableApi

/-- A double: its sign, and the 63 low bits of its pattern. A magnitude
above `Double.infinity` is not a number. -/
structure Double where
  negative : Bool
  magnitude : Nat
deriving DecidableEq

namespace Double

-- ============================================== the value of a pattern

/-- The magnitude of the infinities: exponent field full, fraction zero. -/
def infinity : Nat := 0x7ff0000000000000

/-- The number of magnitudes with one exponent field: `2 ^ 52`. -/
def binade : Nat := 0x10000000000000

/-- The value of magnitude `m` is `scaled m / 2 ^ 1074`. Below `2 ^ 52`
the pattern is the coefficient itself (subnormal); above, the exponent
field less one shifts a coefficient whose leading bit is implied. -/
def scaled (m : Nat) : Nat :=
  if m < binade then m else (binade + m % binade) <<< (m / binade - 1)

/-- The quotient rounded to the nearest natural number, halves to the
even neighbour. -/
def divNearest (n d : Nat) : Nat :=
  let q := n / d
  let r := n % d
  if 2 * r < d then q else if d < 2 * r then q + 1 else q + q % 2

/-- The magnitude nearest to `n / d`. The shift is the least that leaves
fewer than 54 bits; a coefficient that rounds up to `2 ^ 53` carries into
the exponent field by plain addition. -/
def roundRatio (n d : Nat) : Nat :=
  let shift := Nat.log2 ((n <<< 1074) / d) - 52
  min (shift * binade + divNearest (n <<< 1074) (d <<< shift)) infinity

-- ======================================================== constructing

/-- The double nearest to `± n / d`. -/
def ofRatio (negative : Bool) (n d : Nat) : Double :=
  ⟨negative, roundRatio n d⟩

/-- The double nearest to an integer. -/
def ofInt (i : Int) : Double := ofRatio (i < 0) i.natAbs 1

/-- The product of two finite doubles. -/
def mul (x y : Double) : Double :=
  ofRatio (x.negative != y.negative) (scaled x.magnitude * scaled y.magnitude)
    (1 <<< 2148)

/-- The quotient of two finite doubles, the second not zero. -/
def div (x y : Double) : Double :=
  ofRatio (x.negative != y.negative) (scaled x.magnitude) (scaled y.magnitude)

/-- The double of the other sign. -/
def neg (x : Double) : Double := ⟨!x.negative, x.magnitude⟩

-- =========================================================== comparing

def isNaN (x : Double) : Bool := infinity < x.magnitude

def isInfinite (x : Double) : Bool := x.magnitude = infinity

def isZero (x : Double) : Bool := x.magnitude = 0

/-- The place of a number among all doubles, infinities included: the
two zeros share one place. -/
def rank (x : Double) : Int :=
  if x.negative then -(x.magnitude : Int) else x.magnitude

/-- Numeric comparison. Nothing compares with what is not a number. -/
def compare? (x y : Double) : Option Ordering :=
  if x.isNaN || y.isNaN then none else some (compare x.rank y.rank)

/-- Numeric equality: the zeros are equal, and what is not a number
equals nothing. -/
def same (x y : Double) : Bool := x.compare? y == some .eq

end Double

end TableApi
