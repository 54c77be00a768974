/-
The order of JSON values that conditions and sorting go by.

Two numbers compare as doubles, whatever form they are written in; two
strings by code points; a number and a string that reads as a number
compare as numbers. Values of other kinds are equal if they are the same
and otherwise do not compare, and null compares with nothing.
-/
import TableApi.Numeric.Reading
import TableApi.Json.Printer
import TableApi.Json.Value

namespace TableApi

open Json

namespace Json.Value

/-- The order of two booleans: false first. -/
def compareBool (a b : Bool) : Ordering :=
  if a = b then .eq else if a then .gt else .lt

/-- The order of two strings, by code points. -/
def compareText (a b : String) : Ordering :=
  if a < b then .lt else if a = b then .eq else .gt

/-- The order of two values, if they compare. -/
def compare? : Value → Value → Option Ordering
  | .null, _ => none
  | _, .null => none
  | .number m, .number n => m.toDouble.compare? n.toDouble
  | .string s, .string t => some (compareText s t)
  | .bool a, .bool b => some (compareBool a b)
  | .number m, .string t =>
      (Double.read? t.toList).bind fun y => m.toDouble.compare? y
  | .string s, .number n =>
      (Double.read? s.toList).bind fun x => x.compare? n.toDouble
  | a, b => if a.same b then some .eq else none

/-- The text that patterns are matched with: a string itself, any other
value its JSON text, and nothing for null. -/
def plainText? : Value → Option String
  | .null => none
  | .string s => some s
  | v => some v.text

end Json.Value

end TableApi
