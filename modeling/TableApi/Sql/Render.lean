/-
Writing SQL text.

A text is written by a computation that collects the values it binds: a
value goes behind those there are, and the text names it by the number
that it gets there. What a list of members binds is bound member by
member; the text around the members is put together when they are done.
-/
import TableApi.Sql.Statement

namespace TableApi

open Json Sql

namespace Sql

/-- A computation that binds values. -/
abbrev Writer := StateM (Array Value)

/-- Binds one more value; the first one has the number one. Numbers are
not bounded. -/
def pushParam (v : Value) : Writer Nat :=
  modifyGet fun values => (values.size + 1, values.push v)

def quoted (name : String) : String := String.ofList (delimited name)

/-- The value with a number, as a text names it. -/
def numbered (n : Nat) : String := String.ofList ('$' :: Decimal.digits n)

def notText (negated : Bool) : String := if negated then "NOT " else ""

/-- Members joined by a connective in one pair of parentheses; a constant
if there is none. -/
def joinText (connective empty : String) (members : List String) : String :=
  if members.isEmpty then empty else "(" ++ connective.intercalate members ++ ")"

/-- Binds a value and names it, cast to the type of a column. -/
def renderCast (c : Column) (v : Value) : Writer String := do
  let n ← pushParam v
  return numbered n ++ "::" ++ c.type

end Sql

namespace Condition

/-- Binds a value, with the cast that its column asks for. -/
def renderParam (table : Table) (column : String) (value : Value) : Writer String := do
  let n ← pushParam value
  match table.column? column with
  | some c => return numbered n ++ "::" ++ c.type
  | none => return numbered n

mutual

/-- Writes a condition on the rows of a table. -/
def render (table : Table) : Condition → Writer String
  | always => return "1 = 1"
  | never => return "1 = 0"
  | compare column op value => do
      let param ← renderParam table column value
      return quoted column ++ " " ++ op.sql ++ " " ++ param
  | like column pattern ignoreCase negated => do
      let n ← pushParam (.string pattern)
      let operator := if ignoreCase then "ILIKE" else "LIKE"
      return quoted column ++ "::text " ++ notText negated ++ operator ++ " " ++ numbered n
  | isNull column negated =>
      return quoted column ++ " IS " ++ notText negated ++ "NULL"
  | inList column values negated =>
      if values.isEmpty then return if negated then "1 = 1" else "1 = 0"
      else do
        let params ← values.mapM (renderParam table column)
        return quoted column ++ " " ++ notText negated ++ "IN (" ++ ", ".intercalate params
          ++ ")"
  | between column low high negated => do
      let first ← renderParam table column low
      let last ← renderParam table column high
      return quoted column ++ " " ++ notText negated ++ "BETWEEN " ++ first ++ " AND "
        ++ last
  | and conditions => return joinText " AND " "1 = 1" (← renderAll table conditions)
  | or conditions => return joinText " OR " "1 = 0" (← renderAll table conditions)
  | not condition => return "NOT (" ++ (← render table condition) ++ ")"

def renderAll (table : Table) : List Condition → Writer (List String)
  | [] => return []
  | c :: cs => do
      let text ← render table c
      return text :: (← renderAll table cs)

end

end Condition

namespace Sql

-- ================================================ text that binds nothing

def tableText (t : Table) : String :=
  match t.schema with
  | some schema => quoted schema ++ "." ++ quoted t.name
  | none => quoted t.name

def columnsText (t : Table) : String :=
  ", ".intercalate <| t.columns.map fun c =>
    if c.selectedAsText then quoted c.name ++ "::text AS " ++ quoted c.name
    else quoted c.name

def orderText (order : List SortKey) : String :=
  if order.isEmpty then ""
  else " ORDER BY " ++ ", ".intercalate
    (order.map fun key => quoted key.column ++ directionSql key.direction)

def numberText (clause : String) : Option Nat → String
  | some n => clause ++ String.ofList (Decimal.digits n)
  | none => ""

-- ============================================================= statements

def renderWhere (t : Table) : Option Condition → Writer String
  | some c => return " WHERE " ++ (← c.render t)
  | none => return ""

def renderSelect (t : Table) (s : Selection) : Writer String := do
  let condition ← renderWhere t s.condition
  return "SELECT " ++ columnsText t ++ " FROM " ++ tableText t ++ condition
    ++ orderText s.order ++ numberText " OFFSET " s.offset ++ numberText " LIMIT " s.limit

def renderCount (t : Table) (condition : Option Condition) : Writer String := do
  let condition ← renderWhere t condition
  return "SELECT COUNT(*) AS " ++ quoted "count" ++ " FROM " ++ tableText t ++ condition

/-- Binds the cell of a row in a column, or writes its default. -/
def renderEntry (row : Row) (c : Column) : Writer String :=
  match row.get? c.name with
  | some v => renderCast c v
  | none => return "DEFAULT"

def renderTuple (columns : List Column) (row : Row) : Writer String := do
  let entries ← columns.mapM (renderEntry row)
  return "(" ++ ", ".intercalate entries ++ ")"

/-- The tuples are written row by row, and each column by column. -/
def renderInsert (t : Table) (rows : List Row) : Writer String := do
  let columns := insertColumns t rows
  let (names, tuples) ←
    if columns.isEmpty then
      pure (quoted t.primaryKey, List.replicate (max 1 rows.length) "(DEFAULT)")
    else do
      let tuples ← rows.mapM (renderTuple columns)
      pure (", ".intercalate (columns.map fun c => quoted c.name), tuples)
  return "INSERT INTO " ++ tableText t ++ " (" ++ names ++ ") VALUES "
    ++ ", ".intercalate tuples ++ " RETURNING " ++ columnsText t

def renderAssignment (set : Column × Value) : Writer String := do
  let param ← renderCast set.1 set.2
  return quoted set.1.name ++ " = " ++ param

/-- The new values are bound before those of the condition. -/
def renderUpdate (t : Table) (condition : Condition) (values : Row) : Writer String := do
  let sets ← (assignments t values).mapM renderAssignment
  let condition ← condition.render t
  if sets.isEmpty then
    return "SELECT " ++ columnsText t ++ " FROM " ++ tableText t ++ " WHERE " ++ condition
  else
    return "UPDATE " ++ tableText t ++ " SET " ++ ", ".intercalate sets ++ " WHERE "
      ++ condition ++ " RETURNING " ++ columnsText t

def renderDelete (t : Table) (condition : Condition) : Writer String := do
  let condition ← condition.render t
  return "DELETE FROM " ++ tableText t ++ " WHERE " ++ condition

/-- The text that a computation writes, with the values it binds. -/
def Writer.query (w : Writer String) : Query :=
  let (sql, params) := w.run #[]
  ⟨sql, params.toList⟩

end Sql

namespace Condition

/-- The text of a condition by itself, with its values. -/
def toQuery (table : Table) (c : Condition) : Query := Writer.query (c.render table)

end Condition

namespace Statement

/-- Writes a statement. -/
def render : Statement → Writer String
  | select t s => renderSelect t s
  | count t condition => renderCount t condition
  | insert t rows => renderInsert t rows
  | update t condition values => renderUpdate t condition values
  | delete t condition => renderDelete t condition

/-- The query that runs a statement. -/
def toQuery (s : Statement) : Query := Writer.query s.render

end Statement

end TableApi
