/-
Number literals: the grammar of JSON numbers, and the number that a
literal denotes.

A literal without fraction and exponent is an integer if an unsigned
64-bit word holds its digits (for a negative one: if a signed word
holds it, and it is not `-0`). Every other literal is a double, read
quickly rather than exactly: the digits are taken into a 64-bit
significand while they fit, the rest are dropped, and the significand
is then scaled by one rounded multiplication or division by a power of
ten. A literal beyond the largest double denotes nothing.
-/
import TableApi.Numeric.Decimal
import TableApi.Json.Value

namespace TableApi.Json

/-- The parts of a literal: its sign, the digits before and after the
point, and the power of ten it is to be multiplied by. -/
structure Literal where
  negative : Bool
  whole : List Nat
  fraction : List Nat
  exponent : Option Int

namespace Literal

-- ============================================================= grammar

/-- The digits at the start of a text. -/
def takeDigits : List Char → List Nat × List Char
  | [] => ([], [])
  | c :: cs =>
      match Decimal.digit? c with
      | some d => let (ds, rest) := takeDigits cs; (d :: ds, rest)
      | none => ([], c :: cs)

/-- The number whose decimal digits these are. -/
def value (ds : List Nat) : Nat := ds.foldl (fun n d => n * 10 + d) 0

/-- The digits before the point: a single zero, or digits that do not
start with one. -/
def takeWhole (cs : List Char) : Option (List Nat × List Char) :=
  match takeDigits cs with
  | ([], _) => none
  | (0 :: _ :: _, _) => none
  | found => some found

/-- A point and at least one digit, or nothing. -/
def takeFraction : List Char → Option (Option (List Nat) × List Char)
  | '.' :: cs =>
      match takeDigits cs with
      | ([], _) => none
      | (ds, rest) => some (some ds, rest)
  | cs => some (none, cs)

/-- The digits of an exponent, after its sign. -/
def takeExponentDigits (negative : Bool) (cs : List Char) :
    Option (Option Int × List Char) :=
  match takeDigits cs with
  | ([], _) => none
  | (ds, rest) =>
      let n : Int := value ds
      some (some (if negative then -n else n), rest)

/-- An exponent mark, an optional sign and at least one digit, or
nothing. -/
def takeExponent : List Char → Option (Option Int × List Char)
  | 'e' :: '-' :: cs | 'E' :: '-' :: cs => takeExponentDigits true cs
  | 'e' :: '+' :: cs | 'E' :: '+' :: cs => takeExponentDigits false cs
  | 'e' :: cs | 'E' :: cs => takeExponentDigits false cs
  | cs => some (none, cs)

-- ============================================================= meaning

/-- Takes digits into a significand while an unsigned 64-bit word holds
it; returns the significand and the digits left over. -/
def takeFitting : Nat → List Nat → Nat × List Nat
  | n, [] => (n, [])
  | n, d :: ds =>
      if n * 10 + d ≤ nat64Max then takeFitting (n * 10 + d) ds
      else (n, d :: ds)

/-- The largest power of ten that is applied in one step. -/
def powerStep : Nat := 308

/-- The double nearest to a power of ten. -/
def powerOfTen (k : Nat) : Double := .ofRatio false (Decimal.power k) 1

/-- Divides by `10 ^ k`, by at most `10 ^ 308` at a time. -/
def scaleDown (x : Double) (k : Nat) : Double :=
  if k ≤ powerStep then x.div (powerOfTen k)
  else if x.isZero then x
  else scaleDown (x.div (powerOfTen powerStep)) (k - powerStep)
termination_by k
decreasing_by simp only [powerStep] at *; omega

/-- The double `significand * 10 ^ exponent`; `none` beyond the largest. -/
def scale (significand : Nat) (exponent : Int) : Option Double :=
  let x := Double.ofInt significand
  if exponent < 0 then some (scaleDown x exponent.natAbs)
  else if exponent ≤ powerStep then
    some (x.mul (powerOfTen exponent.toNat)) |>.filter (!·.isInfinite)
  else if x.isZero then some x
  else none

/-- The number that a literal denotes. -/
def number? (literal : Literal) (pointed : Bool) : Option Number :=
  let (n, dropped) := takeFitting 0 literal.whole
  match dropped, pointed, literal.exponent with
  | [], false, none =>
      if literal.negative then
        if 0 < n ∧ -(n : Int) ≥ int64Min then some (.int (-(n : Int)))
        else some (.float (Double.ofInt n).neg)
      else some (.int n)
  | _, _, _ =>
      let (significand, lost) := takeFitting n literal.fraction
      let places := literal.fraction.length - lost.length
      let exponent := (dropped.length : Int) - places + literal.exponent.getD 0
      (scale significand exponent).map fun x =>
        .float (if literal.negative then x.neg else x)

/-- Reads the literal at the start of a text: `none` if the text does not
start with one, and `some (none, _)` for one that denotes nothing. -/
def read (cs : List Char) : Option (Option Number × List Char) :=
  let (negative, cs) := match cs with
    | '-' :: rest => (true, rest)
    | all => (false, all)
  match takeWhole cs with
  | none => none
  | some (whole, cs) =>
      match takeFraction cs with
      | none => none
      | some (fraction, cs) =>
          match takeExponent cs with
          | none => none
          | some (exponent, rest) =>
              some (number? ⟨negative, whole, fraction.getD [], exponent⟩
                fraction.isSome, rest)

end Literal

end TableApi.Json
