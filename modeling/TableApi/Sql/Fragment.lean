/-
Pieces of SQL text.

A fragment lists its pieces from left to right: fixed words, delimited
names, types, numbers and parameters. A parameter carries its value, and
is written as `$1`, `$2`, … by its place among the parameters; so the
text names values only by number, and the list of values that goes with
the text has the order of the numbers.
-/
import TableApi.Numeric.Decimal
import TableApi.Condition.Order

namespace TableApi.Sql

open Json

inductive Piece where
  /-- Keywords, operators, punctuation and blanks, as they are. -/
  | word (text : String)
  /-- A delimited identifier. -/
  | name (text : String)
  /-- The name of a type. -/
  | type (text : String)
  | number (n : Nat)
  | param (value : Value)

abbrev Fragment := List Piece

/-- A name between double quotes, quotes inside it doubled. -/
def delimited (name : String) : List Char :=
  '"' :: name.toList.flatMap (fun c => if c = '"' then ['"', '"'] else [c]) ++ ['"']

namespace Piece

/-- The text of a piece; `place` is the number of a parameter. -/
def chars (place : Nat) : Piece → List Char
  | word text => text.toList
  | name text => delimited text
  | type text => text.toList
  | number n => Decimal.digits n
  | param _ => '$' :: Decimal.digits place

/-- The value of a parameter. -/
def value? : Piece → Option Value
  | param v => some v
  | _ => none

/-- The place of the next parameter after a piece. -/
def next (place : Nat) : Piece → Nat
  | param _ => place + 1
  | _ => place

end Piece

namespace Fragment

/-- The text of a fragment whose first parameter has the number
`place`. -/
def charsFrom (place : Nat) : Fragment → List Char
  | [] => []
  | p :: ps => p.chars place ++ charsFrom (p.next place) ps

/-- The values of the parameters, from left to right. -/
def params (f : Fragment) : List Value := f.filterMap Piece.value?

/-- Fragments with a separating piece between neighbours. -/
def separated (separator : Piece) : List Fragment → Fragment
  | [] => []
  | [f] => f
  | f :: fs => f ++ separator :: separated separator fs

/-- Fragments with commas between them. -/
def listed (fs : List Fragment) : Fragment := separated (.word ", ") fs

end Fragment

/-- SQL text with the values of its parameters. -/
structure Query where
  sql : String
  params : List Value

namespace Query

def ofFragment (f : Fragment) : Query :=
  ⟨String.ofList (f.charsFrom 1), f.params⟩

/-- The parameters as they are bound: as text, or null. -/
def binds (q : Query) : List (Option String) := q.params.map Value.plainText?

end Query

end TableApi.Sql
