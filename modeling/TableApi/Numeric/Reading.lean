/-
Numbers in free text, as a comparison reads them from a string: an
optional sign and then either digits with an optional point and
exponent, at least one digit before or after the point, or `inf`,
`infinity` or `nan` in any letter case. The result is the nearest
double. White space, digit separators and other bases are not numbers.
-/
import TableApi.Text.Ascii
import TableApi.Json.Literal

namespace TableApi.Double

open Json (Literal)

/-- The magnitude of what is not a number. -/
def nanMagnitude : Nat := 0x7ff8000000000000

/-- The double nearest to `n * 10 ^ e` for an `n` of at most `places`
digits. Exponents far out of range are settled by counting digits, so
the power of ten stays small. -/
def ofScientific (negative : Bool) (n places : Nat) (e : Int) : Double :=
  if n = 0 then ⟨negative, 0⟩
  else if 400 < e then ⟨negative, infinity⟩
  else if e + places < -400 then ⟨negative, 0⟩
  else .ofRatio negative (n * Decimal.power e.toNat) (Decimal.power (-e).toNat)

/-- Reads digits with an optional point and exponent, and nothing after
them. -/
def readDecimal? (negative : Bool) (cs : List Char) : Option Double :=
  let (whole, cs) := Literal.takeDigits cs
  let (fraction, cs) := match cs with
    | '.' :: rest => Literal.takeDigits rest
    | all => ([], all)
  if whole.isEmpty && fraction.isEmpty then none
  else
    match Literal.takeExponent cs with
    | some (exponent, []) =>
        let ds := whole ++ fraction
        some (ofScientific negative (Literal.value ds) ds.length
          (exponent.getD 0 - fraction.length))
    | _ => none

/-- Reads a number that fills the whole text. -/
def read? (cs : List Char) : Option Double :=
  let (negative, cs) := match cs with
    | '-' :: rest => (true, rest)
    | '+' :: rest => (false, rest)
    | all => (false, all)
  let word := String.ofList (Text.asciiLower cs)
  if word = "inf" ∨ word = "infinity" then some ⟨negative, infinity⟩
  else if word = "nan" then some ⟨negative, nanMagnitude⟩
  else readDecimal? negative cs

end TableApi.Double
