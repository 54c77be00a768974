/-
Tables: their name, their primary key and their columns.

The name of a column's type decides how its keys are read, which cells
get a default, and which columns are selected as text.
-/
import TableApi.Text.Ascii
import TableApi.Text.Search

namespace TableApi

structure Column where
  name : String
  type : String
  /-- Whether the store fills in a value where none is given. -/
  hasDefault : Bool

namespace Column

/-- The integer types of up to 64 bits, by their exact names. -/
def integerTypes : List String :=
  ["int2", "int4", "int8", "smallint", "integer", "int", "bigint",
    "smallserial", "serial", "bigserial"]

def isInteger (c : Column) : Bool :=
  integerTypes.any fun name => Text.asciiLower c.type.toList == name.toList

def isUuid (c : Column) : Bool := Text.sameAscii c.type.toList "uuid".toList

/-- Any type with the word in its name, written in lower case. -/
def isTimestamp (c : Column) : Bool :=
  Text.occursIn "timestamp".toList c.type.toList

/-- Types of a schema of their own and `numeric` are selected as text. -/
def selectedAsText (c : Column) : Bool :=
  c.type.toList.contains '.' || c.type == "numeric"

end Column

structure Table where
  schema : Option String
  name : String
  primaryKey : String
  columns : List Column

namespace Table

/-- The first column of that name. -/
def column? (t : Table) (name : String) : Option Column :=
  t.columns.find? (·.name == name)

/-- The column of the primary key; the key need not be one. -/
def keyColumn? (t : Table) : Option Column := t.column? t.primaryKey

end Table

end TableApi
