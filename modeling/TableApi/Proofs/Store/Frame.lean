/-
What an update leaves as it is.

Rows are written where they stand, so a table keeps their number and their
order, and what an update does can be said of one row at a time
(`UpdatedBy`). The rows that it returns are those that met the condition
before it. Behind it they may meet it no longer, and a second run passes
them over; or they may meet it still, and are written once more with the
values that they hold already. A row that the first run has passed over
is as it was, and the second passes it over too. So the second run leaves
every row as the first did, whatever columns the condition reads.
-/
import TableApi.Proofs.Store.Returned

namespace TableApi

open Json

-- ================================================================ one row

namespace Table

variable {t : Table} {condition : Condition} {values row : Row} {name : String}

/-- An update with these values writes the column: it is one of the table
but not the key, and the values name it. -/
structure Writes (t : Table) (values : Row) (name : String) : Prop where
  column : name ∈ t.columns.map (·.name)
  notKey : name ≠ t.primaryKey
  named : (values.get? name).isSome = true

theorem get?_overwrite_of_writes (h : t.Writes values name) :
    (t.overwrite values row).get? name = values.get? name := by
  rw [get?_overwrite, if_pos ⟨h.column, h.notKey⟩, Option.or_of_isSome h.named]

theorem get?_overwrite_of_not_writes (h : ¬ t.Writes values name) :
    (t.overwrite values row).get? name = row.get? name := by
  rw [get?_overwrite]
  split
  · next hcolumn =>
    have hnone : values.get? name = none := by
      rw [← Option.not_isSome_iff_eq_none]
      exact fun hnamed => h ⟨hcolumn.1, hcolumn.2, hnamed⟩
    rw [hnone, Option.none_or]
  · rfl

/-- A row that holds the values is left alone by them. -/
theorem overwrite_overwrite (t : Table) (values row : Row) :
    t.overwrite values (t.overwrite values row) = t.overwrite values row := by
  refine Row.ext fun name => ?_
  by_cases h : t.Writes values name
  · rw [get?_overwrite_of_writes h, get?_overwrite_of_writes h]
  · rw [get?_overwrite_of_not_writes h]

/-- The row behind an update. -/
def change (t : Table) (condition : Condition) (values row : Row) : Row :=
  if condition.keeps row then t.overwrite values row else row

/-- What becomes of a row in an update. -/
structure UpdatedBy (t : Table) (condition : Condition) (values row row' : Row) : Prop where
  missed : condition.keeps row = false → row' = row
  written : condition.keeps row = true → ∀ name, t.Writes values name →
    row'.get? name = values.get? name
  kept : ∀ name, ¬ t.Writes values name → row'.get? name = row.get? name

theorem updatedBy_change (t : Table) (condition : Condition) (values row : Row) :
    t.UpdatedBy condition values row (t.change condition values row) := by
  unfold change
  cases hkeeps : condition.keeps row with
  | false => exact ⟨fun _ => rfl, fun h => absurd h (by simp [hkeeps]), fun _ _ => rfl⟩
  | true =>
      refine ⟨fun h => absurd h (by simp [hkeeps]), ?_, ?_⟩
      · exact fun _ name hname => get?_overwrite_of_writes hname
      · exact fun name hname => get?_overwrite_of_not_writes hname

/-- A second update changes nothing: a row that was passed over is passed
over again, and one that was written holds the values, whether it still
meets the condition or not. -/
theorem change_change (t : Table) (condition : Condition) (values row : Row) :
    t.change condition values (t.change condition values row) = t.change condition values row := by
  cases hkeeps : condition.keeps row with
  | false => simp [change, hkeeps]
  | true =>
      have hwritten : t.change condition values row = t.overwrite values row := if_pos hkeeps
      rw [hwritten, change, overwrite_overwrite, ite_self]

end Table

-- ============================================================== the table

namespace Store

variable {supply : Supply} {s : Store} {t : Table} {condition : Condition} {values : Row}

theorem rows_execute_update (hready : s.failure = none) (u : Table) :
    (s.execute supply (.update t condition values)).2.rows u
      = if u.fullName = t.fullName then (s.rows t).map (t.change condition values)
        else s.rows u := by
  rw [execute_update_of_ready hready, rows_setRows]
  rfl

/-- What an update answers and leaves that no failure stops. -/
structure Updates (supply : Supply) (s : Store) (t : Table) (condition : Condition)
    (values : Row) : Prop where
  /-- Row by row the table is what it was, but for the cells written. -/
  rows : List.Forall₂ (t.UpdatedBy condition values) (s.rows t)
    ((s.execute supply (.update t condition values)).2.rows t)
  others : ∀ u : Table, u.fullName ≠ t.fullName →
    (s.execute supply (.update t condition values)).2.rows u = s.rows u
  /-- The rows that met the condition are returned, as they are now. -/
  returned : (s.execute supply (.update t condition values)).1
    = .ok (marked ((s.rows t).map condition.keeps)
        ((s.execute supply (.update t condition values)).2.rows t))
  again : ∀ u, ((s.execute supply (.update t condition values)).2.execute supply
      (.update t condition values)).2.rows u
    = (s.execute supply (.update t condition values)).2.rows u

theorem updates_of_ready (hready : s.failure = none) : Updates supply s t condition values := by
  have hrows : (s.execute supply (.update t condition values)).2.rows t
      = (s.rows t).map (t.change condition values) := by
    rw [rows_execute_update hready, if_pos rfl]
  constructor
  case rows =>
    rw [hrows, List.forall₂_map_right_iff, List.forall₂_same]
    exact fun row _ => Table.updatedBy_change t condition values row
  case others =>
    intro u hname
    rw [rows_execute_update hready, if_neg hname]
  case returned =>
    have hwritten : ((s.rows t).filter condition.keeps).map (t.change condition values)
        = ((s.rows t).filter condition.keeps).map (t.overwrite values) :=
      List.map_congr_left fun row hrow => if_pos (List.mem_filter.1 hrow).2
    rw [hrows, marked_map, hwritten, execute_update_of_ready hready]
  case again =>
    intro u
    rw [rows_execute_update failure_execute, hrows, List.map_map]
    split
    · next hname =>
      rw [rows_execute_update hready, if_pos hname]
      exact List.map_congr_left fun row _ => Table.change_change t condition values row
    · rfl

/-- An update writes the columns that it names into the rows that meet its
condition, and touches nothing else; it returns these rows, and running
it again leaves the rows as they are. If a failure is pending, the update
is refused in its place, and touches nothing at all. -/
theorem update_touches_only_what_it_names (supply : Supply) (s : Store) (t : Table)
    (condition : Condition) (values : Row) :
    (s.failure = none → Updates supply s t condition values)
      ∧ ∀ message, s.failure = some message →
        (s.execute supply (.update t condition values)).1 = .error (.refused message)
          ∧ (s.execute supply (.update t condition values)).2.failure = none
          ∧ ∀ u, (s.execute supply (.update t condition values)).2.rows u = s.rows u := by
  refine ⟨updates_of_ready, fun message hfailure => ?_⟩
  have hrefused : (s.execute supply (.update t condition values)).1 = .error (.refused message) :=
    execute_eq_refused_iff.2 hfailure
  exact ⟨hrefused, failure_execute, rows_execute_of_error hrefused⟩

/-- The column that the condition reads is set, so a second run finds no
row; and the key that is given is not written. -/
theorem renaming_touches_only_the_name :
    let supply := Supply.constant
    let s := Store.empty.seed members [.object [("id", .int 1), ("name", .string "Ada")]]
    let named : Condition := .equals "name" (.string "Ada")
    let values := (Row.empty.set "name" (.string "Bob")).set "id" (.int 2)
    let once := s.execute supply (.update members named values)
    let twice := once.2.execute supply (.update members named values)
    s.failure = none ∧ Updates supply s members named values
      ∧ once.1.toOption.map List.length = some 1 ∧ twice.1.toOption.map List.length = some 0
      ∧ (twice.2.rows members).map members.integerKey? = [some 1] := by
  intro supply s named values once twice
  have hready : s.failure = none := rfl
  have hupdates := (update_touches_only_what_it_names supply s members named values).1 hready
  exact ⟨hready, hupdates, by decide +kernel, by decide +kernel, by decide +kernel⟩

end Store

end TableApi
