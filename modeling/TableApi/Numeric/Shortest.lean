/-
The shortest decimal that reads back as a given double.

A decimal reads back as the double of magnitude `m` exactly when it
lies between the midpoints to the two neighbouring doubles, the
midpoints themselves included iff `m` is even. For 1, 2, ... 17
significant digits we test the two points of that decimal grid on
either side of the value; the first grid with a hit wins, and of two
hits the nearer. If any point of a grid lies between the midpoints, so
does one of these two, so nothing shorter is missed.

All comparisons are between natural numbers: the value is
`scaled m / 2 ^ 1074`, the midpoints have denominator `2 ^ 1075`.
-/
import TableApi.Numeric.Double
import TableApi.Numeric.Decimal

namespace TableApi.Shortest

/-- The decimal `coefficient * 10 ^ exponent`. -/
structure Point where
  coefficient : Nat
  exponent : Int
deriving DecidableEq

/-- Twice the scaled value of the lower midpoint. -/
def lowerMid (m : Nat) : Nat := Double.scaled (m - 1) + Double.scaled m

/-- Twice the scaled value of the upper midpoint. -/
def upperMid (m : Nat) : Nat := Double.scaled m + Double.scaled (m + 1)

/-- Whether `n / d`, in units of `2 ^ -1075`, reads back as `m`. -/
def readsBack (m n d : Nat) : Bool :=
  if m % 2 = 0 then lowerMid m * d ≤ n ∧ n ≤ upperMid m * d
  else lowerMid m * d < n ∧ n < upperMid m * d

/-- The decimal exponent of the leading digit. The value is moved up by
`10 ^ 400`, past every subnormal, and its integer digits are counted. -/
def leading (m : Nat) : Int :=
  ((Decimal.digits ((Double.scaled m * Decimal.power 400) >>> 1074)).length : Int) - 401

/-- The nearest point with `places` significant digits that reads back,
if there is one. -/
def onGrid (m places : Nat) : Option Point :=
  let unit : Int := leading m - (places - 1 : Nat)
  let up := Decimal.power unit.toNat
  let down := Decimal.power (-unit).toNat
  -- the value in grid units is `n / d`
  let n := Double.scaled m * down
  let d := up <<< 1074
  let below := n / d
  let hits (k : Nat) : Bool := readsBack m ((k * up) <<< 1075) down
  let nearer := Double.divNearest n d
  match hits below, hits (below + 1) with
  | true, true => some ⟨nearer, unit⟩
  | true, false => some ⟨below, unit⟩
  | false, true => some ⟨below + 1, unit⟩
  | false, false => none

/-- Drops the zeros at the end of a coefficient, counting them in the
exponent. -/
def trim (coefficient : Nat) (exponent : Int) : Point :=
  if coefficient % 10 = 0 ∧ 0 < coefficient then
    trim (coefficient / 10) (exponent + 1)
  else ⟨coefficient, exponent⟩
termination_by coefficient

/-- The shortest decimal that reads back as the finite magnitude `m`;
seventeen digits always suffice. -/
def ofMagnitude (m : Nat) : Point :=
  match (List.range 17).findSome? fun i => onGrid m (i + 1) with
  | some found => trim found.coefficient found.exponent
  | none => ⟨0, 0⟩

end TableApi.Shortest
