/-
Statements: what the library asks of a store.
-/
import TableApi.Condition.Basic
import TableApi.Table

namespace TableApi

open Json

inductive Direction where
  | ascending
  | descending
deriving DecidableEq

/-- A column to sort by. -/
structure SortKey where
  column : String
  direction : Direction

/-- Which rows to select: those that meet the condition, sorted, less
the first `offset`, and no more than `limit`. -/
structure Selection where
  condition : Option Condition
  order : List SortKey
  limit : Option Nat
  offset : Option Nat

namespace Selection

/-- Every row, in the order of the store. -/
def all : Selection := ⟨none, [], none, none⟩

/-- The first row that meets a condition. -/
def first (condition : Condition) : Selection := ⟨some condition, [], some 1, none⟩

end Selection

inductive Statement where
  | select (table : Table) (selection : Selection)
  | count (table : Table) (condition : Option Condition)
  | insert (table : Table) (rows : List Row)
  | update (table : Table) (condition : Condition) (values : Row)
  | delete (table : Table) (condition : Condition)

/-- The kinds of statements. -/
inductive StatementKind where
  | select
  | count
  | insert
  | update
  | delete
deriving DecidableEq

namespace StatementKind

def isWrite : StatementKind → Bool
  | select | count => false
  | insert | update | delete => true

def name : StatementKind → String
  | select => "select"
  | count => "count"
  | insert => "insert"
  | update => "update"
  | delete => "delete"

end StatementKind

namespace Statement

def kind : Statement → StatementKind
  | select _ _ => .select
  | count _ _ => .count
  | insert _ _ => .insert
  | update _ _ _ => .update
  | delete _ _ => .delete

def table : Statement → Table
  | select t _ | count t _ | insert t _ | update t _ _ | delete t _ => t

end Statement

end TableApi
