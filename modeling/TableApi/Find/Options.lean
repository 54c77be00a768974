/-
Find options: what a client asks of a list of rows.

Compiled for a table they become a selection. Without a limit a page has
ten rows; a field to sort by that is no column of the table is dropped.
-/
import TableApi.Filter.Compile
import TableApi.Statement

namespace TableApi

open TableApi.Filter

/-- A field to sort by. -/
structure OrderField where
  field : String
  direction : Direction

structure FindOptions where
  filter : Option Group
  limit : Option Nat
  offset : Option Nat
  order : List OrderField

namespace FindOptions

def empty : FindOptions := ⟨none, none, none, []⟩

def defaultLimit : Nat := 10

def defaultOffset : Nat := 0

/-- The sort key that a field is in a table. -/
def sortKey? (t : Table) (o : OrderField) : Option SortKey :=
  (t.column? o.field).map fun c => ⟨c.name, o.direction⟩

/-- The condition of an optional filter. -/
def compileFilter : Option Group → Except FilterError (Option Condition)
  | none => .ok none
  | some g => g.compile.map some

/-- The selection that the options ask for. -/
def compile (t : Table) (o : FindOptions) : Except FilterError Selection :=
  (compileFilter o.filter).map fun condition =>
    { condition
      order := o.order.filterMap (sortKey? t)
      limit := some (o.limit.getD defaultLimit)
      offset := some (o.offset.getD defaultOffset) }

/-- Options that are accepted: only their filter could have been
refused. -/
theorem compile_eq_ok {t : Table} {o : FindOptions} {s : Selection} (h : o.compile t = .ok s) :
    ∃ condition, compileFilter o.filter = .ok condition
      ∧ s = { condition
              order := o.order.filterMap (sortKey? t)
              limit := some (o.limit.getD defaultLimit)
              offset := some (o.offset.getD defaultOffset) } := by
  unfold compile at h
  cases hfilter : compileFilter o.filter with
  | error e =>
      rw [hfilter] at h
      cases h
  | ok condition =>
      rw [hfilter] at h
      exact ⟨condition, rfl, (Except.ok.inj h).symm⟩

end FindOptions

end TableApi
