/-
UUIDs as text.

Four spellings are read: 32 hexadecimal digits, the same with hyphens
after the 8th, 12th, 16th and 20th, and the hyphenated form in braces or
behind `urn:uuid:` in letters of either case. Every UUID is written in
the hyphenated form, in lower case.
-/
import TableApi.Text.Ascii

namespace TableApi.Text.Uuid

/-- A hexadecimal digit of either case. -/
def isHexDigit (c : Char) : Bool :=
  ('0' ≤ c ∧ c ≤ '9') ∨ ('a' ≤ c ∧ c ≤ 'f') ∨ ('A' ≤ c ∧ c ≤ 'F')

/-- The numbers of digits between the hyphens. -/
def groups : List Nat := [8, 4, 4, 4, 12]

/-- Cuts a text into hyphenated groups of the given lengths; `none` if a
hyphen is missing or the length differs. -/
def hyphenated? : List Nat → List Char → Option (List (List Char))
  | [], _ => none
  | [n], cs => if cs.length = n then some [cs] else none
  | n :: ns, cs =>
      match cs.drop n with
      | '-' :: rest =>
          if (cs.take n).length = n then (hyphenated? ns rest).map (cs.take n :: ·)
          else none
      | _ => none

/-- Cuts a text without hyphens into groups. -/
def cut : List Nat → List Char → List (List Char)
  | [], _ => []
  | n :: ns, cs => cs.take n :: cut ns (cs.drop n)

/-- The hyphenated text of the groups. -/
def ofGroups : List (List Char) → List Char
  | [] => []
  | [g] => g
  | g :: gs => g ++ '-' :: ofGroups gs

/-- The name that may stand before a UUID. -/
def urnName : List Char := "urn:uuid:".toList

/-- The text inside braces or behind the urn name, if it is in one. -/
def unwrap (cs : List Char) : Option (List Char) :=
  match cs with
  | '{' :: rest => if rest.getLast? = some '}' then some rest.dropLast else none
  | cs => if sameAscii (cs.take 9) urnName then some (cs.drop 9) else none

/-- The groups of digits in a text of any of the four spellings. -/
def groups? (cs : List Char) : Option (List (List Char)) :=
  let found :=
    if cs.length = 32 then some (cut groups cs)
    else hyphenated? groups ((unwrap cs).getD cs)
  found.filter (·.all (·.all isHexDigit))

/-- The hyphenated lower-case form of a UUID in any of the four
spellings. -/
def canonical? (cs : List Char) : Option (List Char) :=
  (groups? cs).map fun gs => asciiLower (ofGroups gs)

end TableApi.Text.Uuid
