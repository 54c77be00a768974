/-
What clients may ask of a resource.

Filters are compiled before a statement is sent. Reading one record by
its key, changing it and deleting it need it to exist; the last two ask
the store first and send no write for a key that has no row.
-/
import TableApi.Find.Options
import TableApi.Repository.Read
import TableApi.Repository.Write

namespace TableApi.Service

open Json TableApi.Filter

variable (r : Resource)

/-- A repository operation, its failure as an error of the API. -/
def run {α : Type} (a : Attempt QueryError α) : Attempt ApiError α :=
  a.adapt .query

/-- Goes on with what a filter compiles to. -/
def compiled {α : Type} (c : Except FilterError α) : Attempt ApiError α :=
  match c with
  | .ok a => pure a
  | .error e => throw (.filter e)

/-- Goes on with a record if there is one. -/
def found (key : Key) : Option Value → Attempt ApiError Value
  | some record => pure record
  | none => throw (.notFound r.table.name key)

def findAll (o : FindOptions) : Attempt ApiError (List Value) := do
  run (Repository.findAll r (← compiled (o.compile r.table)))

/-- A page of records and the number of records on all pages. -/
def findAndCount (o : FindOptions) : Attempt ApiError (List Value × Nat) := do
  run (Repository.findAndCount r (← compiled (o.compile r.table)))

def findById (key : Key) : Attempt ApiError Value := do
  found r key (← run (Repository.findById r key))

/-- The first record that passes a filter; that there is none is no
error. -/
def findOne (g : Group) : Attempt ApiError (Option Value) := do
  run (Repository.findOne r (← compiled g.compile))

def count (g : Option Group) : Attempt ApiError Nat := do
  run (Repository.count r (← compiled (FindOptions.compileFilter g)))

def checkExists (g : Group) : Attempt ApiError Bool := do
  run (Repository.checkExists r (← compiled g.compile))

def create (payload : Value) : Attempt ApiError Value :=
  run (Repository.create r payload)

def createMany (payloads : List Value) : Attempt ApiError (List Value) :=
  run (Repository.createMany r payloads)

/-- Fails unless a row has the key. -/
def ensureExists (key : Key) : Attempt ApiError Unit := do
  if ← run (Repository.checkExistsById r key) then return ()
  else throw (.notFound r.table.name key)

def update (key : Key) (patch : Value) : Attempt ApiError Value := do
  ensureExists r key
  found r key (← run (Repository.update r key patch))

def delete (key : Key) : Attempt ApiError Unit := do
  ensureExists r key
  run (Repository.delete r key)

end TableApi.Service
