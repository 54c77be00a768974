/-
Percent-encoded text: `%` and two hexadecimal digits stand for a byte. A
percent sign without two digits stands for itself.
-/
import TableApi.Encoding.Utf8

namespace TableApi.Percent

/-- The value of a hexadecimal digit. -/
def hexDigit? (c : Char) : Option Nat :=
  if '0' ≤ c ∧ c ≤ '9' then some (c.toNat - '0'.toNat)
  else if 'a' ≤ c ∧ c ≤ 'f' then some (c.toNat - 'a'.toNat + 10)
  else if 'A' ≤ c ∧ c ≤ 'F' then some (c.toNat - 'A'.toNat + 10)
  else none

/-- The byte of two hexadecimal digits. -/
def byte? (high low : Char) : Option UInt8 :=
  match hexDigit? high, hexDigit? low with
  | some h, some l => some (UInt8.ofNat (h * 16 + l))
  | _, _ => none

/-- The bytes that a text stands for. -/
def decode : List Char → List UInt8
  | '%' :: high :: low :: rest =>
      match byte? high low with
      | some b => b :: decode rest
      | none => Utf8.encode ['%'] ++ decode (high :: low :: rest)
  | c :: rest => Utf8.encode [c] ++ decode rest
  | [] => []

/-- The text behind a percent-encoded text, if its bytes are UTF-8. -/
def decodeText? (cs : List Char) : Option (List Char) := Utf8.text? (decode cs)

end TableApi.Percent
