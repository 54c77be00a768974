/-
Statements as pieces of SQL text.

Rows are named by the columns of the table: an insert lists the columns
that some row has a cell in and writes `DEFAULT` where another row has
none, an update sets the columns it has values for except the primary
key, and both return the rows in the form in which they are selected.
-/
import TableApi.Sql.Condition
import TableApi.Statement

namespace TableApi

open Json Sql

namespace Table

/-- The name of the table behind that of its schema. -/
def sqlName (t : Table) : Fragment :=
  match t.schema with
  | some schema => [.name schema, .word ".", .name t.name]
  | none => [.name t.name]

/-- The columns as they are selected. -/
def sqlColumns (t : Table) : Fragment :=
  Fragment.listed <| t.columns.map fun c =>
    if c.selectedAsText then [.name c.name, .word "::text AS ", .name c.name]
    else [.name c.name]

end Table

namespace Sql

/-- A parameter cast to the type of its column. -/
def cast (c : Column) (v : Value) : Fragment := [.param v, .word "::", .type c.type]

def whereSql (t : Table) : Option Condition → Fragment
  | some c => .word " WHERE " :: c.sql t
  | none => []

def directionSql : Direction → String
  | .ascending => " ASC"
  | .descending => " DESC"

def orderSql (order : List SortKey) : Fragment :=
  if order.isEmpty then []
  else .word " ORDER BY " :: Fragment.listed
    (order.map fun key => [.name key.column, .word (directionSql key.direction)])

/-- A clause that takes a number, if there is one. -/
def numberSql (clause : String) : Option Nat → Fragment
  | some n => [.word clause, .number n]
  | none => []

def selectSql (t : Table) (s : Selection) : Fragment :=
  .word "SELECT " :: t.sqlColumns ++ .word " FROM " :: t.sqlName
    ++ whereSql t s.condition ++ orderSql s.order
    ++ numberSql " OFFSET " s.offset ++ numberSql " LIMIT " s.limit

def countSql (t : Table) (condition : Option Condition) : Fragment :=
  [.word "SELECT COUNT(*) AS ", .name "count", .word " FROM "] ++ t.sqlName
    ++ whereSql t condition

/-- The columns that some of the rows have a cell in. -/
def insertColumns (t : Table) (rows : List Row) : List Column :=
  t.columns.filter fun c => rows.any (·.has c.name)

/-- The values of a row for the columns, or their defaults. -/
def tupleSql (columns : List Column) (row : Row) : Fragment :=
  let entry (c : Column) : Fragment :=
    match row.get? c.name with
    | some v => cast c v
    | none => [.word "DEFAULT"]
  .word "(" :: Fragment.listed (columns.map entry) ++ [.word ")"]

/-- The column names and the tuples of an insert. Rows without any known
column become defaults of the primary key. -/
def insertParts (t : Table) (rows : List Row) : Fragment × List Fragment :=
  match insertColumns t rows with
  | [] =>
      ([.name t.primaryKey],
        List.replicate (max 1 rows.length) [.word "(", .word "DEFAULT", .word ")"])
  | columns =>
      (Fragment.listed (columns.map fun c => [.name c.name]), rows.map (tupleSql columns))

def insertSql (t : Table) (rows : List Row) : Fragment :=
  let (names, tuples) := insertParts t rows
  .word "INSERT INTO " :: t.sqlName ++ .word " (" :: names ++ .word ") VALUES "
    :: Fragment.listed tuples ++ .word " RETURNING " :: t.sqlColumns

/-- The columns that an update sets, with their values. -/
def assignments (t : Table) (values : Row) : List (Column × Value) :=
  t.columns.filterMap fun c =>
    if c.name = t.primaryKey then none
    else (values.get? c.name).map fun v => (c, v)

/-- An update that sets no column selects the rows instead. -/
def updateSql (t : Table) (condition : Condition) (values : Row) : Fragment :=
  match assignments t values with
  | [] =>
      .word "SELECT " :: t.sqlColumns ++ .word " FROM " :: t.sqlName
        ++ .word " WHERE " :: condition.sql t
  | sets =>
      .word "UPDATE " :: t.sqlName ++ .word " SET "
        :: Fragment.listed (sets.map fun (c, v) => [.name c.name, .word " = "] ++ cast c v)
        ++ .word " WHERE " :: condition.sql t ++ .word " RETURNING " :: t.sqlColumns

def deleteSql (t : Table) (condition : Condition) : Fragment :=
  .word "DELETE FROM " :: t.sqlName ++ .word " WHERE " :: condition.sql t

end Sql

namespace Statement

/-- The pieces of a statement. -/
def sql : Statement → Fragment
  | select t s => selectSql t s
  | count t condition => countSql t condition
  | insert t rows => insertSql t rows
  | update t condition values => updateSql t condition values
  | delete t condition => deleteSql t condition

end Statement

end TableApi
