/-
JSON text of a value: no spaces, fields in the order the value holds
them, characters beyond ASCII as they are.

A float is written with the fewest digits that read back the same:
positional from `1e-5` up to `1e16` and then always with a fraction,
otherwise with an exponent that carries its sign either way.
-/
import TableApi.Numeric.Shortest
import TableApi.Json.Value

namespace TableApi.Json

-- ============================================================== numbers

/-- How floats are written: the decimal exponents that are written
positionally. -/
structure FloatFormat where
  positionalFrom : Int
  positionalBelow : Int

/-- Positional notation covers `1e-5` to just below `1e16`. -/
def floatFormat : FloatFormat := ⟨-5, 16⟩

/-- Zeros in a row. -/
def zeros (n : Nat) : List Char := List.replicate n '0'

/-- Digits with the point after the first `e + 1`, zeros filled in on
either side. -/
def positional (ds : List Char) (e : Int) : List Char :=
  if e < 0 then ['0', '.'] ++ zeros (-e - 1).toNat ++ ds
  else
    let before := (e + 1).toNat
    let whole := ds.take before ++ zeros (before - ds.length)
    let fraction := ds.drop before
    whole ++ ['.'] ++ (if fraction.isEmpty then ['0'] else fraction)

/-- Digits with the point after the first, then the exponent. -/
def scientific (ds : List Char) (e : Int) : List Char :=
  let fraction := ds.drop 1
  ds.take 1 ++ (if fraction.isEmpty then [] else '.' :: fraction)
    ++ ['e', if e < 0 then '-' else '+'] ++ Decimal.digits e.natAbs

/-- The text of a finite double. -/
def floatText (x : Double) : List Char :=
  let sign := if x.negative then ['-'] else []
  if x.isZero then sign ++ ['0', '.', '0']
  else
    let point := Shortest.ofMagnitude x.magnitude
    let ds := Decimal.digits point.coefficient
    let e : Int := point.exponent + ds.length - 1
    sign ++ if floatFormat.positionalFrom ≤ e ∧ e < floatFormat.positionalBelow
      then positional ds e else scientific ds e

/-- The text of an integer. -/
def intText (n : Int) : List Char :=
  if n < 0 then '-' :: Decimal.digits n.natAbs else Decimal.digits n.natAbs

def Number.text : Number → List Char
  | .int n => intText n
  | .float x => floatText x

-- ============================================================== strings

/-- A hexadecimal digit in lower case. -/
def hexDigit (n : Nat) : Char :=
  if n < 10 then Char.ofNat ('0'.toNat + n) else Char.ofNat ('a'.toNat + n - 10)

/-- A character inside quotes: the quote, the backslash and the control
characters are escaped. -/
def escaped (c : Char) : List Char :=
  if c = '"' then ['\\', '"']
  else if c = '\\' then ['\\', '\\']
  else if c = '\n' then ['\\', 'n']
  else if c = '\r' then ['\\', 'r']
  else if c = '\t' then ['\\', 't']
  else if c = '\x08' then ['\\', 'b']
  else if c = '\x0c' then ['\\', 'f']
  else if c.toNat < 0x20 then
    ['\\', 'u', '0', '0', hexDigit (c.toNat / 16), hexDigit (c.toNat % 16)]
  else [c]

/-- A text in quotes. -/
def quotedText (s : String) : List Char :=
  '"' :: s.toList.flatMap escaped ++ ['"']

-- =============================================================== values

/-- Texts with commas between them. -/
def commaSeparated : List (List Char) → List Char
  | [] => []
  | [t] => t
  | t :: ts => t ++ ',' :: commaSeparated ts

mutual

/-- The JSON text of a value. -/
def Value.chars : Value → List Char
  | .null => ['n', 'u', 'l', 'l']
  | .bool true => ['t', 'r', 'u', 'e']
  | .bool false => ['f', 'a', 'l', 's', 'e']
  | .number n => n.text
  | .string s => quotedText s
  | .array items => '[' :: commaSeparated (itemTexts items) ++ [']']
  | .object fields => '{' :: commaSeparated (fieldTexts fields) ++ ['}']

def itemTexts : List Value → List (List Char)
  | [] => []
  | v :: vs => v.chars :: itemTexts vs

def fieldTexts : List (String × Value) → List (List Char)
  | [] => []
  | (k, v) :: fs => (quotedText k ++ ':' :: v.chars) :: fieldTexts fs

end

/-- The JSON text of a value, as a string. -/
def Value.text (v : Value) : String := String.ofList v.chars

end TableApi.Json
