/-
The store: rows by table, in memory.

Tables are told apart by the text of their full name. Besides the rows a
store keeps the kinds of the statements it received, a failure that it
has been told to answer the next statement with, and the number of rows
inserted so far, which numbers what it generates.

Two statements stop the program instead of being answered: an insert that
needs a key above the largest integer, and a search whose sort gives up.
Here they come to errors of their own (`StoreError.stops`).
-/
import TableApi.Keyed
import TableApi.Statement

namespace TableApi

open Json

/-- Why a store could not run a statement. -/
inductive StoreError where
  /-- The failure that was asked for. -/
  | refused (message : String)
  | duplicateKey (table column : String)
  /-- The largest integer key is the largest there can be. -/
  | keysExhausted (table : String)
  /-- The sort of a search has given up. -/
  | unsorted (table : String)
  /-- A statement stopped while it held the lock of a shared store. -/
  | lockPoisoned
deriving DecidableEq

namespace StoreError

def message : StoreError → String
  | refused message => message
  | duplicateKey table column =>
      "duplicate key value violates unique constraint on " ++ table ++ "." ++ column
  | keysExhausted table => "no integer key is left in " ++ table
  | unsorted table => "no order for the rows of " ++ table
  | lockPoisoned => "memory store lock poisoned"

/-- Whether the program stops there, and nothing is answered. -/
def stops : StoreError → Bool
  | keysExhausted _ | unsorted _ => true
  | refused _ | duplicateKey _ _ | lockPoisoned => false

end StoreError

/-- What a store answers a statement with. -/
abbrev Answer := Except StoreError (List Row)

/-- Whether the program stops instead of giving the answer. -/
def Answer.stops : Answer → Bool
  | .ok _ => false
  | .error e => e.stops

/-- What comes from outside. The n-th row inserted takes the n-th key, and
each of its columns a time of its own. -/
structure Supply where
  key : Nat → String
  time : Nat → String → String
  /-- What a sort makes of rows that its keys do not put in a line: it
  leaves them in some arrangement, or gives up. -/
  scramble : List SortKey → (rows : List Row) → Option { sorted : List Row // sorted.Perm rows }

namespace Supply

/-- One key and one time for all rows, and a sort that gives up. -/
def constant : Supply := ⟨fun _ => "key", fun _ _ => "time", fun _ _ => none⟩

end Supply

/-- The full name of a table, with a dot behind the schema. -/
def Table.fullName (t : Table) : String :=
  match t.schema with
  | some schema => schema ++ "." ++ t.name
  | none => t.name

structure Store where
  tables : List (String × List Row)
  received : List StatementKind
  failure : Option String
  inserted : Nat

namespace Store

def empty : Store := ⟨[], [], none, 0⟩

instance : Inhabited Store := ⟨empty⟩

/-- The rows of a table, in the order in which they were stored. -/
def rows (s : Store) (t : Table) : List Row :=
  (Keyed.get? t.fullName s.tables).getD []

/-- The store with other rows in a table. -/
def setRows (s : Store) (t : Table) (rows : List Row) : Store :=
  { s with tables := Keyed.put t.fullName rows s.tables }

/-- Appends the objects among the values as they are. -/
def seed (s : Store) (t : Table) (values : List Value) : Store :=
  s.setRows t (s.rows t ++ values.filterMap Row.ofValue?)

/-- Makes the next statement fail. -/
def failNext (s : Store) (message : String) : Store :=
  { s with failure := some message }

/-- The number of writes received. -/
def writeCount (s : Store) : Nat := s.received.countP StatementKind.isWrite

-- ================================================================= laws

/-- Setting the rows of a table shows under its full name and under no
other. -/
theorem rows_setRows (s : Store) (t : Table) (rows : List Row) (u : Table) :
    (s.setRows t rows).rows u = if u.fullName = t.fullName then rows else s.rows u := by
  unfold Store.rows setRows
  rw [Keyed.get?_put]
  split <;> rfl

@[simp] theorem rows_setRows_self (s : Store) (t : Table) (rows : List Row) :
    (s.setRows t rows).rows t = rows := by
  simp [rows_setRows]

@[simp] theorem rows_empty (t : Table) : empty.rows t = [] := rfl

@[simp] theorem rows_failNext (s : Store) (message : String) (t : Table) :
    (s.failNext message).rows t = s.rows t := rfl

@[simp] theorem received_setRows (s : Store) (t : Table) (rows : List Row) :
    (s.setRows t rows).received = s.received := rfl

end Store

end TableApi
