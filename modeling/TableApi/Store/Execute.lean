/-
How the store runs statements.

A statement is recorded first. Then a failure that was asked for is
answered and forgotten; an insert that fails at any row inserts none.
-/
import TableApi.Condition.Eval
import TableApi.Store.Basic
import TableApi.Store.Order

namespace TableApi

open Json

-- ================================================================= rows

namespace Table

/-- A row with the columns of the table and no others. What the row
lacks is null; a column name given twice holds null. -/
def project (t : Table) (row : Row) : Row :=
  t.columns.foldl (fun out c =>
    let once := t.columns.countP (·.name == c.name) = 1
    out.set c.name (if once then row.cell c.name else .null)) .empty

/-- The primary key of a row, if it is an integer. -/
def integerKey? (t : Table) (row : Row) : Option Int :=
  match row.get? t.primaryKey with
  | some (.number n) => n.toInt64?
  | _ => none

/-- The key of a row that brings none: one above the largest integer key
in an integer column, else the generated text. -/
def nextKey (t : Table) (generated : String) (known : List Row) :
    Except StoreError Value :=
  if t.keyColumn?.any Column.isInteger then
    let largest := (known.filterMap t.integerKey?).max?.getD 0
    if largest < int64Max then .ok (.int (largest + 1))
    else .error (.keysExhausted t.name)
  else .ok (.string generated)

/-- The row with its primary key, generated if it brings none. -/
def withKey (t : Table) (generated : String) (known : List Row) (row : Row) :
    Except StoreError Row :=
  if (row.cell t.primaryKey).isNull then
    (t.nextKey generated known).map (row.set t.primaryKey)
  else .ok row

/-- The row with the time in its empty timestamp columns that have a
default, taken anew for each of them. -/
def withTimes (t : Table) (time : String → String) (row : Row) : Row :=
  t.columns.foldl (fun row c =>
    if c.hasDefault && c.isTimestamp && (row.cell c.name).isNull then
      row.set c.name (.string (time c.name))
    else row) row

/-- Whether some row has the primary key of `row`. -/
def holdsKeyOf (t : Table) (known : List Row) (row : Row) : Bool :=
  known.any fun r => (r.get? t.primaryKey).any (·.same (row.cell t.primaryKey))

/-- The row that an insert stores for `input`, as the n-th ever, beside
the rows that are known. -/
def newRow (t : Table) (supply : Supply) (n : Nat) (known : List Row) (input : Row) :
    Except StoreError Row :=
  match t.withKey (supply.key n) known (t.project input) with
  | .error e => .error e
  | .ok keyed =>
      let row := t.withTimes (supply.time n) keyed
      if t.holdsKeyOf known row then .error (.duplicateKey t.name t.primaryKey)
      else .ok row

/-- The rows that an insert stores, each beside those before it. -/
def newRows (t : Table) (supply : Supply) :
    Nat → List Row → List Row → Except StoreError (List Row)
  | _, _, [] => .ok []
  | n, known, input :: inputs =>
      match t.newRow supply n known input with
      | .error e => .error e
      | .ok row => (t.newRows supply (n + 1) (known ++ [row]) inputs).map (row :: ·)

/-- The row with the values put into its columns, the primary key
excepted. -/
def overwrite (t : Table) (values row : Row) : Row :=
  t.columns.foldl (fun row c =>
    if c.name = t.primaryKey then row
    else match values.get? c.name with
      | some v => row.set c.name v
      | none => row) row

end Table

/-- Whether an optional condition keeps a row. -/
def keepsRow (condition : Option Condition) (row : Row) : Bool :=
  condition.all (·.keeps row)

namespace Selection

/-- The rows behind the offset, as far as the limit goes. -/
def window (s : Selection) (sorted : List Row) : List Row :=
  let rest := sorted.drop (s.offset.getD 0)
  match s.limit with
  | some n => rest.take n
  | none => rest

/-- The rows selected from those stored, if these can be sorted. -/
def select? (supply : Supply) (s : Selection) (stored : List Row) : Option (List Row) :=
  (sort? supply s.order (stored.filter (keepsRow s.condition))).map s.window

end Selection

/-- What a search finds among the rows that are stored. -/
def Table.search (t : Table) (supply : Supply) (selection : Selection) (stored : List Row) :
    Answer :=
  match selection.select? supply stored with
  | some rows => .ok (rows.map t.project)
  | none => .error (.unsorted t.name)

-- ================================================================ store

namespace Store

/-- The row that reports a count. -/
def countRow (n : Nat) : Row := Row.empty.set "count" (.nat n)

/-- Runs a statement on the rows. -/
def perform (supply : Supply) (s : Store) : Statement → Answer × Store
  | .select t selection => (t.search supply selection (s.rows t), s)
  | .count t condition =>
      (.ok [countRow ((s.rows t).countP (keepsRow condition))], s)
  | .insert t inputs =>
      match t.newRows supply s.inserted (s.rows t) inputs with
      | .error e => (.error e, s)
      | .ok new =>
          (.ok new,
            { s.setRows t (s.rows t ++ new) with inserted := s.inserted + new.length })
  | .update t condition values =>
      let change (row : Row) : Row :=
        if condition.keeps row then t.overwrite values row else row
      (.ok (((s.rows t).filter condition.keeps).map (t.overwrite values)),
        s.setRows t ((s.rows t).map change))
  | .delete t condition =>
      (.ok [], s.setRows t ((s.rows t).filter fun row => !condition.keeps row))

/-- Receives a statement: records it and answers it. -/
def execute (supply : Supply) (s : Store) (statement : Statement) : Answer × Store :=
  let s := { s with received := s.received ++ [statement.kind] }
  match s.failure with
  | some message => (.error (.refused message), { s with failure := none })
  | none => s.perform supply statement

end Store

end TableApi
