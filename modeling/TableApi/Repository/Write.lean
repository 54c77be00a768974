/-
Writing records.

A payload has to be an object, and this is checked of all payloads before
the first statement is sent.
-/
import TableApi.Repository.Basic

namespace TableApi.Repository

open Json

variable (r : Resource)

/-- The rows that payloads are, all of them. -/
def payloads? (payloads : List Value) : Option (List Row) :=
  payloads.mapM Row.ofValue?

/-- Inserts a row and returns its record. -/
def create (payload : Value) : Attempt QueryError Value := do
  let row ← require .create (Row.ofValue? payload)
  ask .create (.insert r.table [row]) fun rows => (r.firstRecord? rows).join

/-- Inserts rows, all or none, and returns their records. Nothing is sent
for no rows. -/
def createMany (payloads : List Value) : Attempt QueryError (List Value) := do
  if payloads.isEmpty then return []
  let rows ← require .createMany (payloads? payloads)
  ask .createMany (.insert r.table rows) r.records?

/-- The statement that changes the row with a key. -/
def updateStatement (key : Key) (values : Row) : Statement :=
  .update r.table (r.hasKey key) values

/-- Changes the row with a key and returns its record, if there is such a
row. -/
def update (key : Key) (patch : Value) : Attempt QueryError (Option Value) := do
  let values ← require .update (Row.ofValue? patch)
  ask .update (updateStatement r key values) r.firstRecord?

/-- Changes rows one after another up to the first failure. Keys without
a row are skipped. -/
def updateEach : List (Key × Row) → Attempt QueryError (List Value)
  | [] => pure []
  | (key, values) :: rest => do
      let found ← ask .updateMany (updateStatement r key values) r.firstRecord?
      let records ← updateEach rest
      return found.toList ++ records

/-- Changes the rows with given keys and returns the records of those
there are. -/
def updateMany (changes : List (Key × Value)) : Attempt QueryError (List Value) := do
  let rows ← require .updateMany (payloads? (changes.map (·.2)))
  updateEach r ((changes.map (·.1)).zip rows)

/-- Deletes the row with a key, if there is one. -/
def delete (key : Key) : Attempt QueryError Unit :=
  ask .delete (.delete r.table (r.hasKey key)) fun _ => some ()

/-- Deletes the rows with given keys. Nothing is sent for no keys. -/
def deleteMany (keys : List Key) : Attempt QueryError Unit := do
  if keys.isEmpty then return ()
  let condition : Condition :=
    .inList r.table.primaryKey (keys.map Key.toValue) false
  ask .deleteMany (.delete r.table condition) fun _ => some ()

end TableApi.Repository
