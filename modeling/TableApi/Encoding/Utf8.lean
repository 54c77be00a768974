/-
UTF-8.

Reading never fails as a whole: where the bytes are no character the
result holds a gap, one for each longest beginning of a character that is
not carried on, and one for each other byte that starts none. `text?`
accepts bytes without gaps, `lossyText` writes U+FFFD for each.
-/

namespace TableApi.Utf8

/-- The bytes of a text. -/
def encode (cs : List Char) : List UInt8 := cs.flatMap String.utf8EncodeChar

/-- Where a reader stands: between characters, or within one. Within one
it holds the bits so far, the range of the next byte, and how many bytes
from 0x80 to 0xBF follow that one. -/
inductive State where
  | between
  | within (bits : Nat) (low high : Nat) (more : Nat)

/-- The first byte of a character: what it yields, and where it leaves
the reader. -/
def first (b : Nat) : List (Option Char) × State :=
  if b < 0x80 then ([some (Char.ofNat b)], .between)
  else if 0xC2 ≤ b ∧ b ≤ 0xDF then ([], .within (b - 0xC0) 0x80 0xBF 0)
  else if b = 0xE0 then ([], .within 0 0xA0 0xBF 1)
  else if b = 0xED then ([], .within 0xD 0x80 0x9F 1)
  else if 0xE1 ≤ b ∧ b ≤ 0xEF then ([], .within (b - 0xE0) 0x80 0xBF 1)
  else if b = 0xF0 then ([], .within 0 0x90 0xBF 2)
  else if 0xF1 ≤ b ∧ b ≤ 0xF3 then ([], .within (b - 0xF0) 0x80 0xBF 2)
  else if b = 0xF4 then ([], .within 4 0x80 0x8F 2)
  else ([none], .between)

/-- One byte: what it yields, and where it leaves the reader. -/
def step : State → Nat → List (Option Char) × State
  | .between, b => first b
  | .within bits low high more, b =>
      if low ≤ b ∧ b ≤ high then
        let bits := bits * 64 + b % 64
        match more with
        | 0 => ([some (Char.ofNat bits)], .between)
        | more + 1 => ([], .within bits 0x80 0xBF more)
      else
        let (yielded, state) := first b
        (none :: yielded, state)

/-- Reads bytes from a state on. -/
def read : State → List UInt8 → List (Option Char)
  | .between, [] => []
  | .within _ _ _ _, [] => [none]
  | state, b :: bs =>
      let (yielded, state) := step state b.toNat
      yielded ++ read state bs

/-- The characters that bytes stand for, with gaps. -/
def decode (bytes : List UInt8) : List (Option Char) := read .between bytes

/-- The text that bytes stand for, if they are UTF-8. -/
def text? (bytes : List UInt8) : Option (List Char) := (decode bytes).mapM id

/-- The text that bytes stand for, with U+FFFD for the gaps. -/
def lossyText (bytes : List UInt8) : List Char :=
  (decode bytes).map (·.getD '\uFFFD')

end TableApi.Utf8
