/-
Repositories: a table as a collection of records.

A resource says what its rows, its new rows and its changes look like. An
operation sends statements and reads the answers; whatever goes wrong on
the way, in the store or in reading, is reported as a failure of the
operation and of nothing more.
-/
import TableApi.Error
import TableApi.Json.Shape
import TableApi.Session

namespace TableApi

open Json

/-- A table with the shapes of its records. -/
structure Resource where
  table : Table
  row : Shape
  insert : Shape
  patch : Shape

/-- A computation that uses a store and may fail. -/
abbrev Attempt (ε α : Type) := ExceptT ε Session α

namespace Resource

/-- The record that a row is. -/
def record? (r : Resource) (row : Row) : Option Value :=
  r.row.readValue? row.toValue

/-- The records that rows are, all of them. -/
def records? (r : Resource) (rows : List Row) : Option (List Value) :=
  rows.mapM r.record?

/-- The record of the first row, if there is a row. -/
def firstRecord? (r : Resource) : List Row → Option (Option Value)
  | [] => some none
  | row :: _ => (r.record? row).map some

/-- The condition that a row has the key. -/
def hasKey (r : Resource) (key : Key) : Condition :=
  .equals r.table.primaryKey key.toValue

end Resource

namespace Repository

/-- Fails on behalf of an operation. -/
def fail {α : Type} (operation : Operation) : Attempt QueryError α :=
  throw ⟨operation⟩

/-- Goes on with a value if there is one. -/
def require {α : Type} (operation : Operation) : Option α → Attempt QueryError α
  | some a => pure a
  | none => fail operation

/-- Sends a statement and reads the rows of the answer. -/
def ask {α : Type} (operation : Operation) (statement : Statement)
    (read : List Row → Option α) : Attempt QueryError α :=
  .send statement fun
    | .ok rows => require operation (read rows)
    | .error _ => fail operation

/-- The number in an answer to a count: a natural number of at most 64
bits, as a number or in decimal text. -/
def countOf? (rows : List Row) : Option Nat :=
  match rows.head?.bind (·.get? "count") with
  | some (.number n) => n.toNat64?
  | some (.string s) => Decimal.boundedNat? nat64Max s.toList
  | _ => none

end Repository

end TableApi
