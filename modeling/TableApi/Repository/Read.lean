/-
Reading records.
-/
import TableApi.Repository.Basic

namespace TableApi.Repository

open Json

variable (r : Resource)

/-- The records selected. -/
def findAll (s : Selection) : Attempt QueryError (List Value) :=
  ask .findAll (.select r.table s) r.records?

/-- The number of rows that meet a condition. -/
def count (condition : Option Condition) : Attempt QueryError Nat :=
  ask .count (.count r.table condition) countOf?

/-- The records selected, and the number of rows that meet the condition
on any page. -/
def findAndCount (s : Selection) : Attempt QueryError (List Value × Nat) := do
  let records ← findAll r s
  let total ← count r s.condition
  return (records, total)

/-- The record with a key. -/
def findById (key : Key) : Attempt QueryError (Option Value) :=
  ask .findById (.select r.table (.first (r.hasKey key))) r.firstRecord?

/-- The first record that meets a condition. -/
def findOne (condition : Condition) : Attempt QueryError (Option Value) :=
  ask .findOne (.select r.table (.first condition)) r.firstRecord?

/-- Whether a row meets a condition. -/
def checkExists (condition : Condition) : Attempt QueryError Bool := do
  return 0 < (← count r (some condition))

/-- Whether a row has a key. -/
def checkExistsById (key : Key) : Attempt QueryError Bool :=
  checkExists r (r.hasKey key)

end TableApi.Repository
