/-
Conditions: what a filter compiles to, and what selects the rows of a
statement.

Columns are named by arbitrary strings; whether a name is a column of
the table is not asked here.
-/
import TableApi.Json.Value

namespace TableApi

open Json

inductive CompareOp where
  | eq
  | ne
  | gt
  | ge
  | lt
  | le
deriving DecidableEq

inductive Condition where
  | always
  | never
  | compare (column : String) (op : CompareOp) (value : Value)
  | like (column pattern : String) (ignoreCase negated : Bool)
  | isNull (column : String) (negated : Bool)
  | inList (column : String) (values : List Value) (negated : Bool)
  /-- Both bounds included. -/
  | between (column : String) (low high : Value) (negated : Bool)
  | and (conditions : List Condition)
  | or (conditions : List Condition)
  | not (condition : Condition)

instance : Inhabited Condition := ⟨.always⟩

/-- The condition that a column equals a value. -/
def Condition.equals (column : String) (value : Value) : Condition :=
  .compare column .eq value

end TableApi
