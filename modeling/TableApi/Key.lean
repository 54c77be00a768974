/-
Primary keys as clients give them: an integer or a text.

How a key is read from a path depends on the type of the key column; an
integer column takes a 64-bit integer in decimal, a UUID column a UUID in
any spelling, and every other column the text as it is.
-/
import TableApi.Json.Record
import TableApi.Json.Printer
import TableApi.Numeric.Decimal
import TableApi.Text.Uuid
import TableApi.Table

namespace TableApi

open Json

inductive Key where
  /-- A 64-bit integer. -/
  | int (n : Int)
  | text (s : String)
deriving DecidableEq

/-- Why a text is no key for a column. -/
inductive KeyError where
  | notInteger (raw : String)
  | notUuid (raw : String)
deriving DecidableEq

namespace KeyError

def message : KeyError → String
  | notInteger raw => "invalid id '" ++ raw ++ "'"
  | notUuid raw => "invalid uuid '" ++ raw ++ "'"

end KeyError

namespace Key

def toValue : Key → Value
  | int n => .int n
  | text s => .string s

/-- The key as plain text. -/
def display : Key → String
  | int n => String.ofList (intText n)
  | text s => s

/-- Reads a key for a column, if the table has the column. -/
def parseFor (column : Option Column) (raw : String) : Except KeyError Key :=
  match column with
  | some c =>
      if c.isInteger then
        match Decimal.boundedInt? int64Min int64Max raw.toList with
        | some n => .ok (.int n)
        | none => .error (.notInteger raw)
      else if c.isUuid then
        match Text.Uuid.canonical? raw.toList with
        | some cs => .ok (.text (String.ofList cs))
        | none => .error (.notUuid raw)
      else .ok (.text raw)
  | none => .ok (.text raw)

/-- The key that a JSON value is: an integer in the range of a key, or a
string. -/
def ofDocument? (d : Document) : Option Key :=
  match d with
  | .number n => n.bind fun n => n.toInt64?.map int
  | .string s => s.map text
  | _ => none

/-- The key in a JSON text. -/
def read? (source : String) : Option Key :=
  (Document.readOnly? source).bind ofDocument?

end Key

end TableApi
