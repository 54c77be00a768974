/-
Punycode: text beyond ASCII written in letters, digits and hyphens.

Before the last hyphen stand the ASCII characters. What follows says
where the others go: numbers in a mixed base of 36 digits, each telling
how many places to pass over before the next character is put in, its
code point counted along. How many digits a number takes depends on a
bias that follows the size of the numbers before.
-/

namespace TableApi.Url.Punycode

/-- The value of a digit: the letters first, then the decimal digits. -/
def digit? (c : Char) : Option Nat :=
  if 'a' ≤ c ∧ c ≤ 'z' then some (c.toNat - 'a'.toNat)
  else if 'A' ≤ c ∧ c ≤ 'Z' then some (c.toNat - 'A'.toNat)
  else if '0' ≤ c ∧ c ≤ '9' then some (c.toNat - '0'.toNat + 26)
  else none

/-- The digit from which on another one follows, at a place of the
number: places are counted by 36, from 36 on. -/
def threshold (bias place : Nat) : Nat := min 26 (max 1 (place - bias))

/-- How many times a number is divided by 35 until it is at most 455, and
what is left of it. -/
def shrink (delta : Nat) : Nat × Nat :=
  if 455 < delta then
    let (times, rest) := shrink (delta / 35)
    (times + 1, rest)
  else (0, delta)
termination_by delta
decreasing_by omega

/-- The bias after a number, given the length of the text by then. -/
def adapt (isFirst : Bool) (delta length : Nat) : Nat :=
  let damped := if isFirst then delta / 700 else delta / 2
  let (times, rest) := shrink (damped + damped / length)
  36 * times + 36 * rest / (rest + 38)

/-- Reads one number; beside it the text that follows. -/
def number? (bias : Nat) : (place weight sum : Nat) → List Char → Option (Nat × List Char)
  | _, _, _, [] => none
  | place, weight, sum, c :: cs => do
      let d ← digit? c
      let t := threshold bias place
      let sum := sum + d * weight
      if d < t then return (sum, cs)
      else number? bias (place + 36) (weight * (36 - t)) sum cs

/-- Puts characters into a text. The next of them is `code` or one
beyond, and if it is `code` itself it goes to `spot` at the earliest.
Every number takes at least one character, so `steps` need not exceed the
length of what is read. -/
def insertAll? : (steps bias code spot : Nat) → (text cs : List Char) → Option (List Char)
  | _, _, _, _, text, [] => some text
  | 0, _, _, _, _, _ => none
  | steps + 1, bias, code, spot, text, cs => do
      let (delta, rest) ← number? bias 36 1 0 cs
      let length := text.length + 1
      let code := code + (spot + delta) / length
      let place := (spot + delta) % length
      guard code.isValidChar
      insertAll? steps (adapt (spot = 0) delta length) code (place + 1)
        (text.insertIdx place (Char.ofNat code)) rest

/-- The text behind a punycode text. -/
def decode? (cs : List Char) : Option (List Char) :=
  let (last, front) := cs.reverse.span (· ≠ '-')
  let (basic, deltas) := match front with
    | _ :: c :: basic => ((c :: basic).reverse, last.reverse)
    | _ => ([], cs)
  insertAll? deltas.length 72 128 0 basic deltas

end TableApi.Url.Punycode
