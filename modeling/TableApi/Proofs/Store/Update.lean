/-
What an update makes of a row.

The values are put into the columns of the table one after another, the
primary key left out, so a cell comes from the values exactly if its
column is one of those and the values name it. The key stays what it was,
and with it whether a condition on the key keeps the row.
-/
import TableApi.Proofs.Key

namespace TableApi

open Json

namespace Table

variable {t : Table} {values row : Row}

theorem get?_overwrite (t : Table) (values row : Row) (name : String) :
    (t.overwrite values row).get? name
      = if name ∈ t.columns.map (·.name) ∧ name ≠ t.primaryKey then
          (values.get? name).or (row.get? name)
        else row.get? name := by
  unfold overwrite
  generalize t.columns = cs
  induction cs generalizing row with
  | nil => simp
  | cons c cs ih =>
      -- A column that has been written once is written the same again.
      rw [List.foldl_cons, ih, List.map_cons]
      by_cases hkey : c.name = t.primaryKey
      · rw [if_pos hkey]
        by_cases hname : name = t.primaryKey
        · simp [hname]
        · have hne : name ≠ c.name := fun h => hname (h.trans hkey)
          simp [hname, hne]
      · rw [if_neg hkey]
        cases hvalue : values.get? c.name with
        | none =>
            by_cases hname : name = c.name
            · subst hname
              simp [hvalue]
            · simp [hname]
        | some v =>
            by_cases hname : name = c.name
            · subst hname
              simp [hvalue, hkey]
            · simp [hname]

@[simp] theorem get?_overwrite_key : (t.overwrite values row).get? t.primaryKey
    = row.get? t.primaryKey := by
  rw [get?_overwrite, if_neg fun h => h.2 rfl]

@[simp] theorem cell_overwrite_key : (t.overwrite values row).cell t.primaryKey
    = row.cell t.primaryKey := by
  rw [Row.cell, get?_overwrite_key, Row.cell]

end Table

/-- An update does not change whether a condition on the key keeps the
row. -/
@[simp] theorem Resource.keeps_hasKey_overwrite {r : Resource} {key : Key} {values row : Row} :
    (r.hasKey key).keeps (r.table.overwrite values row) = (r.hasKey key).keeps row := by
  rw [Bool.eq_iff_iff, Resource.keeps_hasKey, Resource.keeps_hasKey, Table.cell_overwrite_key]

end TableApi
