/-
Conditions as SQL text.

A value is cast to the type of its column if the table has the column;
the column of a pattern is read as text instead, and its pattern never
cast. Every conjunction and disjunction stands in parentheses, also one
of a single member, and what is negated does; an empty list becomes a
constant.
-/
import TableApi.Condition.Basic
import TableApi.Sql.Fragment
import TableApi.Table

namespace TableApi

open Json Sql

namespace CompareOp

def sql : CompareOp → String
  | eq => "="
  | ne => "<>"
  | gt => ">"
  | ge => ">="
  | lt => "<"
  | le => "<="

end CompareOp

namespace Condition

/-- Constants are written as comparisons of numbers. -/
def constantSql : Bool → Fragment
  | true => [.word "1 = 1"]
  | false => [.word "1 = 0"]

def notSql (negated : Bool) : Fragment := if negated then [.word "NOT "] else []

/-- A parameter with the cast that its column asks for. -/
def paramSql (table : Table) (column : String) (value : Value) : Fragment :=
  match table.column? column with
  | some c => [.param value, .word "::", .type c.type]
  | none => [.param value]

/-- Members joined by a connective in one pair of parentheses; the
constant `empty` if there is none. -/
def joinSql (connective : String) (empty : Bool) (members : List Fragment) : Fragment :=
  if members.isEmpty then constantSql empty
  else .word "(" :: Fragment.separated (.word connective) members ++ [.word ")"]

mutual

/-- The text of a condition on the rows of a table. -/
def sql (table : Table) : Condition → Fragment
  | always => constantSql true
  | never => constantSql false
  | compare column op value =>
      [.name column, .word " ", .word op.sql, .word " "] ++ paramSql table column value
  | like column pattern ignoreCase negated =>
      [.name column, .word "::text "] ++ notSql negated
        ++ [.word (if ignoreCase then "ILIKE " else "LIKE "), .param (.string pattern)]
  | isNull column negated =>
      [.name column, .word " IS "] ++ notSql negated ++ [.word "NULL"]
  | inList column values negated =>
      if values.isEmpty then constantSql negated
      else
        [.name column, .word " "] ++ notSql negated ++ [.word "IN ("]
          ++ Fragment.listed (values.map (paramSql table column)) ++ [.word ")"]
  | between column low high negated =>
      [.name column, .word " "] ++ notSql negated ++ [.word "BETWEEN "]
        ++ paramSql table column low ++ [.word " AND "] ++ paramSql table column high
  | and conditions => joinSql " AND " true (sqlAll table conditions)
  | or conditions => joinSql " OR " false (sqlAll table conditions)
  | not condition => .word "NOT (" :: sql table condition ++ [.word ")"]

def sqlAll (table : Table) : List Condition → List Fragment
  | [] => []
  | c :: cs => sql table c :: sqlAll table cs

end

end Condition

end TableApi
