/-
The lexemes of JSON text.

A string lexeme whose escapes name half of a surrogate pair, and a
number lexeme beyond the largest double, are lexemes all the same: a
reader that skips them never notices, so what they fail to denote is
`none` and the fault is left to whoever asks for the value. At the
first character that starts no lexeme the list ends in `illegal`.
-/
import TableApi.Json.Literal

namespace TableApi.Json

inductive Lexeme where
  | objectStart
  | objectEnd
  | arrayStart
  | arrayEnd
  | colon
  | comma
  | null
  | bool (b : Bool)
  | number (n : Option Number)
  | string (s : Option String)
  | illegal

namespace Lexeme

-- ============================================================== strings

/-- A piece of a string: a character, or a code unit written as an
escape. -/
inductive Piece where
  | char (c : Char)
  | unit (n : Nat)

/-- The value of a hexadecimal digit. -/
def hexValue? (c : Char) : Option Nat :=
  if '0' ≤ c ∧ c ≤ '9' then some (c.toNat - '0'.toNat)
  else if 'a' ≤ c ∧ c ≤ 'f' then some (c.toNat - 'a'.toNat + 10)
  else if 'A' ≤ c ∧ c ≤ 'F' then some (c.toNat - 'A'.toNat + 10)
  else none

/-- The code unit of four hexadecimal digits. -/
def unit? (a b c d : Char) : Option Nat := do
  let a ← hexValue? a
  let b ← hexValue? b
  let c ← hexValue? c
  let d ← hexValue? d
  some (((a * 16 + b) * 16 + c) * 16 + d)

/-- The character that a one-letter escape stands for. -/
def simpleEscape? (c : Char) : Option Char :=
  if c = '"' then some '"'
  else if c = '\\' then some '\\'
  else if c = '/' then some '/'
  else if c = 'b' then some '\x08'
  else if c = 'f' then some '\x0c'
  else if c = 'n' then some '\n'
  else if c = 'r' then some '\r'
  else if c = 't' then some '\t'
  else none

/-- The pieces up to the closing quote, and the text after it; `none` if
the string is not closed, or holds a bare control character or an
unknown escape. -/
def pieces? : List Char → Option (List Piece × List Char)
  | [] => none
  | '"' :: rest => some ([], rest)
  | '\\' :: 'u' :: a :: b :: c :: d :: rest =>
      match unit? a b c d, pieces? rest with
      | some n, some (ps, rest) => some (.unit n :: ps, rest)
      | _, _ => none
  | '\\' :: c :: rest =>
      match simpleEscape? c, pieces? rest with
      | some e, some (ps, rest) => some (.char e :: ps, rest)
      | _, _ => none
  | c :: rest =>
      if c.toNat < 0x20 then none
      else (pieces? rest).map fun (ps, rest) => (.char c :: ps, rest)

/-- The text of a list of pieces. A high code unit needs a low one right
after it, and a low one never stands alone. -/
def join? : List Piece → Option (List Char)
  | [] => some []
  | .char c :: ps => (join? ps).map (c :: ·)
  | .unit n :: ps =>
      if n < 0xD800 ∨ 0xE000 ≤ n then (join? ps).map (Char.ofNat n :: ·)
      else match ps with
        | .unit m :: ps =>
            if n < 0xDC00 ∧ 0xDC00 ≤ m ∧ m < 0xE000 then
              (join? ps).map
                (Char.ofNat (0x10000 + (n - 0xD800) * 0x400 + (m - 0xDC00)) :: ·)
            else none
        | _ => none

-- ============================================================== lexemes

/-- The lexeme at the start of a text without leading space, and the text
after it. -/
def next? : List Char → Option (Lexeme × List Char)
  | '{' :: cs => some (.objectStart, cs)
  | '}' :: cs => some (.objectEnd, cs)
  | '[' :: cs => some (.arrayStart, cs)
  | ']' :: cs => some (.arrayEnd, cs)
  | ':' :: cs => some (.colon, cs)
  | ',' :: cs => some (.comma, cs)
  | 'n' :: 'u' :: 'l' :: 'l' :: cs => some (.null, cs)
  | 't' :: 'r' :: 'u' :: 'e' :: cs => some (.bool true, cs)
  | 'f' :: 'a' :: 'l' :: 's' :: 'e' :: cs => some (.bool false, cs)
  | '"' :: cs =>
      (pieces? cs).map fun (ps, rest) =>
        (.string ((join? ps).map String.ofList), rest)
  | cs => (Literal.read cs).map fun (n, rest) => (.number n, rest)

/-- The characters that may stand between lexemes. -/
def isSpace (c : Char) : Bool := c = ' ' ∨ c = '\n' ∨ c = '\t' ∨ c = '\r'

/-- The lexemes of a text. Each takes at least one character, so `n` of
them at most are in a text of length `n`. -/
def lexAtMost : Nat → List Char → List Lexeme
  | 0, _ => []
  | n + 1, cs =>
      match cs.dropWhile isSpace with
      | [] => []
      | cs =>
          match next? cs with
          | some (l, rest) => l :: lexAtMost n rest
          | none => [.illegal]

/-- The lexemes of a text. -/
def lex (cs : List Char) : List Lexeme := lexAtMost cs.length cs

end Lexeme

end TableApi.Json
