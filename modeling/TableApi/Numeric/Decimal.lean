/-
Natural numbers and integers as decimal text.

`digits` writes, `nat?` reads; reading accepts leading zeros and
nothing but the ten ASCII digits. `boundedNat?` and `boundedInt?` add
the optional sign and the range that a setting, a page size or a key
allows.
-/

namespace TableApi.Decimal

/-- The power `10 ^ k`. -/
def power (k : Nat) : Nat := Nat.pow 10 k

/-- The decimal digits of a number, most significant first. -/
def digits (n : Nat) : List Char := Nat.toDigits 10 n

/-- The value of an ASCII digit. -/
def digit? (c : Char) : Option Nat :=
  if '0' ≤ c ∧ c ≤ '9' then some (c.toNat - '0'.toNat) else none

/-- Appends digits to the number read so far; any other character ends
in `none`. -/
def appendDigits? (n : Nat) : List Char → Option Nat
  | [] => some n
  | c :: cs =>
      match digit? c with
      | some d => appendDigits? (n * 10 + d) cs
      | none => none

/-- Reads one or more ASCII digits. -/
def nat? : List Char → Option Nat
  | [] => none
  | cs => appendDigits? 0 cs

/-- Reads one or more ASCII digits after an optional sign. -/
def int? : List Char → Option Int
  | '+' :: cs => (nat? cs).map Int.ofNat
  | '-' :: cs => (nat? cs).map fun n => -(n : Int)
  | cs => (nat? cs).map Int.ofNat

/-- Reads a number up to `bound`. A plus sign may stand in front, a
minus sign may not, not even before zero. -/
def boundedNat? (bound : Nat) (cs : List Char) : Option Nat :=
  let unsigned := match cs with
    | '+' :: rest => rest
    | all => all
  (nat? unsigned).filter (· ≤ bound)

/-- Reads an integer between `low` and `high`. -/
def boundedInt? (low high : Int) (cs : List Char) : Option Int :=
  (int? cs).filter fun i => low ≤ i ∧ i ≤ high

end TableApi.Decimal
