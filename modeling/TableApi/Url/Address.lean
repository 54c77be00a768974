/-
Internet addresses as text.
-/
import TableApi.Encoding.Percent
import TableApi.Numeric.Decimal

namespace TableApi.Url.Address

/-- A number of one to three digits up to 255, without leading zeros. -/
def isOctet (cs : List Char) : Bool :=
  match Decimal.nat? cs with
  | some n => n ≤ 255 ∧ (cs.length = 1 ∨ cs.head? ≠ some '0')
  | none => false

/-- Four octets with dots between them. -/
def isV4 (cs : List Char) : Bool :=
  let parts := cs.splitOn '.'
  parts.length == 4 && parts.all isOctet

/-- One to four hexadecimal digits. -/
def isGroup (cs : List Char) : Bool :=
  0 < cs.length ∧ cs.length ≤ 4 ∧ cs.all fun c => (Percent.hexDigit? c).isSome

/-- How many 16-bit groups a text stands for: groups with colons between
them, the last two possibly in the dotted form; nothing for no text. -/
def groupCount? (cs : List Char) : Option Nat :=
  if cs.isEmpty then some 0
  else
    let parts := cs.splitOn ':'
    if parts.all isGroup then some parts.length
    else if parts.dropLast.all isGroup && isV4 (parts.getLastD []) then
      some (parts.length + 1)
    else none

/-- Cuts at the first double colon. -/
def splitGap? : List Char → Option (List Char × List Char)
  | ':' :: ':' :: rest => some ([], rest)
  | c :: rest => (splitGap? rest).map fun (before, after) => (c :: before, after)
  | [] => none

/-- Eight groups, or fewer with one double colon for the rest. -/
def isV6 (cs : List Char) : Bool :=
  match splitGap? cs with
  | none => groupCount? cs == some 8
  | some (before, after) =>
      match groupCount? before, groupCount? after with
      | some m, some n => m + n ≤ 7 ∧ ¬ before.contains '.'
      | _, _ => false

-- ========================================================== by numbers

/-- The number of digits in some base; no digits are zero. -/
def digitsIn? (base : Nat) (cs : List Char) : Option Nat :=
  cs.foldl (fun sum c => do
    let d ← Percent.hexDigit? c
    if d < base then return (← sum) * base + d else none) (some 0)

/-- A number: hexadecimal behind `0x`, octal behind any other zero, or
else decimal. -/
def number? : List Char → Option Nat
  | [] => none
  | '0' :: 'x' :: cs => digitsIn? 16 cs
  | '0' :: c :: cs => digitsIn? 8 (c :: cs)
  | cs => digitsIn? 10 cs

/-- Whether numbers make up an address: at most four, of which the last
takes all the bytes that are left. -/
def areBytes : List Nat → Bool
  | [] => false
  | [n] => n < 4294967296
  | [a, n] => a < 256 && n < 16777216
  | [a, b, n] => a < 256 && b < 256 && n < 65536
  | [a, b, c, n] => a < 256 && b < 256 && c < 256 && n < 256
  | _ => false

/-- The labels of a name without the empty one behind a last dot. -/
def withoutRoot (labels : List (List Char)) : List (List Char) :=
  if labels.length > 1 ∧ labels.getLast? = some [] then labels.dropLast else labels

/-- Whether the last label is a number, or nothing but digits. -/
def endsInNumber (labels : List (List Char)) : Bool :=
  let last := (withoutRoot labels).getLastD []
  !last.isEmpty && last.all Char.isDigit || (number? last).isSome

/-- Whether the labels are the numbers of an address. -/
def isByNumbers (labels : List (List Char)) : Bool :=
  ((withoutRoot labels).mapM number?).any areBytes

end TableApi.Url.Address
