/-
The rows that an insert stores.

A stored row has the columns of its table and no others, whatever it was
made from; it is therefore its own projection, and what a search returns
of it is the whole row. This asks of the table that its columns have
distinct names and that the primary key is one of them: a column given
twice is projected to null, and a key that is no column is stored and
then not selected.
-/
import Mathlib.Data.List.Nodup
import TableApi.Store.Execute

namespace TableApi

open Json

namespace Table

/-- The columns have distinct names, and the primary key is one of
them. -/
structure Proper (t : Table) : Prop where
  distinct : (t.columns.map (·.name)).Nodup
  keyed : t.primaryKey ∈ t.columns.map (·.name)

/-- The row has the columns of the table and no others. -/
def HasColumns (t : Table) (row : Row) : Prop :=
  ∀ name, (row.get? name).isSome = true ↔ name ∈ t.columns.map (·.name)

variable {t : Table} {row : Row}

-- =========================================================== projection

/-- Cells set one after another: the named ones have their values, the
others are as they were. -/
theorem get?_foldl_set (f : String → Value) (name : String) (cs : List Column) :
    ∀ row : Row, (cs.foldl (fun out c => out.set c.name (f c.name)) row).get? name
      = if name ∈ cs.map (·.name) then some (f name) else row.get? name := by
  induction cs with
  | nil => intro row; simp
  | cons c cs ih =>
      intro row
      rw [List.foldl_cons, ih, Row.get?_set, List.map_cons]
      by_cases hmem : name ∈ cs.map (·.name)
      · rw [if_pos hmem, if_pos (List.mem_cons_of_mem _ hmem)]
      · rw [if_neg hmem]
        by_cases hc : name = c.name
        · subst hc
          rw [if_pos rfl, if_pos List.mem_cons_self]
        · rw [if_neg hc, if_neg]
          rw [List.mem_cons, not_or]
          exact ⟨hc, hmem⟩

/-- A projection has the columns of the table, each with its cell if its
name is given once. -/
theorem get?_project (t : Table) (row : Row) (name : String) :
    (t.project row).get? name
      = if name ∈ t.columns.map (·.name) then
          some (if t.columns.countP (·.name == name) = 1 then row.cell name else .null)
        else none :=
  get?_foldl_set (fun name =>
    if t.columns.countP (·.name == name) = 1 then row.cell name else .null) name t.columns
    .empty

/-- With distinct names every column is projected to its cell. -/
theorem get?_project_of_distinct (ht : (t.columns.map (·.name)).Nodup) (row : Row)
    (name : String) :
    (t.project row).get? name
      = if name ∈ t.columns.map (·.name) then some (row.cell name) else none := by
  rw [get?_project]
  split
  · next hmem =>
    have honce : t.columns.countP (·.name == name) = 1 := by
      have hcount := List.count_eq_one_of_mem ht hmem
      rw [List.count, List.countP_map] at hcount
      exact hcount
    rw [if_pos honce]
  · rfl

theorem hasColumns_project (t : Table) (row : Row) : t.HasColumns (t.project row) := by
  intro name
  rw [get?_project]
  split <;> simp [*]

/-- A row with the columns of its table is its own projection. -/
theorem project_eq_self (ht : t.Proper) (hrow : t.HasColumns row) : t.project row = row := by
  refine Row.ext fun name => ?_
  rw [get?_project_of_distinct ht.distinct]
  by_cases hmem : name ∈ t.columns.map (·.name)
  · obtain ⟨v, hv⟩ := Option.isSome_iff_exists.1 ((hrow name).2 hmem)
    rw [if_pos hmem, Row.cell, hv]
    rfl
  · rw [if_neg hmem]
    cases hget : row.get? name with
    | none => rfl
    | some v => exact absurd ((hrow name).1 (by simp [hget])) hmem

-- ============================================================ new rows

theorem HasColumns.set {name : String} (hrow : t.HasColumns row)
    (hname : name ∈ t.columns.map (·.name)) (v : Value) : t.HasColumns (row.set name v) := by
  intro other
  rw [Row.get?_set]
  by_cases hother : other = name
  · subst hother
    simp [hname]
  · rw [if_neg hother]
    exact hrow other

theorem HasColumns.withTimes (hrow : t.HasColumns row) (time : String → String) :
    t.HasColumns (t.withTimes time row) := by
  unfold Table.withTimes
  refine List.foldlRecOn t.columns _ hrow fun row hrow c hc => ?_
  split
  · exact hrow.set (List.mem_map_of_mem hc) _
  · exact hrow

theorem HasColumns.withKey {generated : String} {known : List Row} {keyed : Row}
    (ht : t.Proper) (hrow : t.HasColumns row)
    (h : t.withKey generated known row = .ok keyed) : t.HasColumns keyed := by
  unfold Table.withKey at h
  split at h
  · cases hkey : t.nextKey generated known with
    | error e => rw [hkey] at h; cases h
    | ok v =>
        rw [hkey] at h
        obtain rfl : row.set t.primaryKey v = keyed := Except.ok.inj h
        exact hrow.set ht.keyed v
  · obtain rfl : row = keyed := Except.ok.inj h
    exact hrow

/-- A row whose key is not held has another key than every known row. -/
theorem not_same_of_holdsKeyOf {known : List Row} {other : Row} {v : Value}
    (h : t.holdsKeyOf known row = false) (hother : other ∈ known)
    (hcell : other.cell t.primaryKey = v) (hv : v ≠ .null) :
    v.same (row.cell t.primaryKey) = false := by
  have hget : other.get? t.primaryKey = some v := by
    cases hg : other.get? t.primaryKey with
    | none =>
        rw [Row.cell, hg] at hcell
        exact absurd hcell.symm hv
    | some w =>
        rw [Row.cell, hg] at hcell
        rw [← hcell, Option.getD_some]
  have hall := List.any_eq_false.1 h other hother
  rw [hget, Option.any_some, Bool.not_eq_true] at hall
  exact hall

section NewRow

variable {supply : Supply} {n : Nat} {known : List Row} {input new : Row}

/-- A row is cut to the columns, keyed and timed, and let in if its key is
not held. -/
theorem newRow_eq_ok_iff :
    t.newRow supply n known input = .ok new
      ↔ ∃ keyed, t.withKey (supply.key n) known (t.project input) = .ok keyed
          ∧ t.withTimes (supply.time n) keyed = new ∧ t.holdsKeyOf known new = false := by
  unfold newRow
  cases t.withKey (supply.key n) known (t.project input) with
  | error e => simp
  | ok keyed =>
      simp only [Except.ok.injEq, exists_eq_left']
      constructor
      · intro h
        split at h
        · cases h
        · next hheld =>
          obtain rfl := Except.ok.inj h
          exact ⟨rfl, Bool.eq_false_iff.2 hheld⟩
      · rintro ⟨rfl, hheld⟩
        rw [if_neg (Bool.eq_false_iff.1 hheld)]

/-- A new row has a key that no known row has. -/
theorem holdsKeyOf_newRow (h : t.newRow supply n known input = .ok new) :
    t.holdsKeyOf known new = false := by
  obtain ⟨keyed, -, -, hheld⟩ := newRow_eq_ok_iff.1 h
  exact hheld

theorem hasColumns_newRow (ht : t.Proper) (h : t.newRow supply n known input = .ok new) :
    t.HasColumns new := by
  obtain ⟨keyed, hkeyed, rfl, -⟩ := newRow_eq_ok_iff.1 h
  exact ((hasColumns_project t input).withKey ht hkeyed).withTimes _

end NewRow

end Table

end TableApi
