/-
A store that is shared, behind a lock.

A statement holds the lock while it runs. One that needs a key above the
largest integer, or whose sort gives up, stops the program with the lock in its
hands, and the lock is poisoned: from then on every statement is refused before
it is looked at.
What does not ask whether the lock is poisoned goes on: seeding a table,
reading its rows and the log, and asking for a failure.
-/
import TableApi.Store.Execute

namespace TableApi

open Json

structure SharedStore where
  store : Store
  /-- Whether a statement has stopped while it held the lock. -/
  poisoned : Bool

/-- What becomes of a statement. -/
inductive Reply where
  | answered (answer : Answer)
  /-- The program stops: there is no answer. -/
  | stopped

namespace SharedStore

def empty : SharedStore := ⟨.empty, false⟩

/-- Acts on the store, whatever the state of the lock. -/
def onStore (s : SharedStore) (act : Store → Store) : SharedStore :=
  { s with store := act s.store }

def seed (s : SharedStore) (t : Table) (values : List Value) : SharedStore :=
  s.onStore (·.seed t values)

def failNext (s : SharedStore) (message : String) : SharedStore :=
  s.onStore (·.failNext message)

/-- Sends a statement. -/
def query (supply : Supply) (s : SharedStore) (statement : Statement) : Reply × SharedStore :=
  if s.poisoned then (.answered (.error .lockPoisoned), s)
  else
    let sent := s.store.execute supply statement
    if sent.1.stops then (.stopped, ⟨sent.2, true⟩) else (.answered sent.1, ⟨sent.2, false⟩)

end SharedStore

end TableApi
