/-
The text of a statement does not depend on its data.

Two statements have one shape if they differ in values only: the values
and patterns of their conditions, the cells of their rows. Statements of
one shape have the same text, to the letter. So whatever a client sends,
the database parses a text that the shape alone decides, and meets the
data as parameters.

# How values are erased

The pieces of a text hold a value only where a parameter stands, and a
parameter is written by its number. Erasing the values of the pieces
therefore changes no character (`charsFrom_erased`), and what is left to
show of every construct is that its erased pieces follow from its shape.
For a condition this is one induction (`sql_erased`). Rows are asked only
which columns of the table they have: that decides the columns of an
insert, where a tuple has its defaults, and what an update sets.
-/
import Mathlib.Data.List.Forall2
import TableApi.Proofs.Sql.Placeholder

namespace TableApi

open Json Sql

-- ================================================== pieces without values

namespace Sql

/-- The piece with no value in it. -/
def Piece.erased : Piece → Piece
  | param _ => param .null
  | p => p

namespace Fragment

/-- The fragment with no values in it. -/
def erased (f : Fragment) : Fragment := f.map Piece.erased

@[simp] theorem erased_cons (p : Piece) (f : Fragment) :
    erased (p :: f) = p.erased :: erased f := rfl

@[simp] theorem erased_append (f g : Fragment) : erased (f ++ g) = erased f ++ erased g :=
  List.map_append

/-- A text does not show the values of its parameters. -/
theorem charsFrom_erased : ∀ (f : Fragment) (n : Nat), f.erased.charsFrom n = f.charsFrom n
  | [], _ => rfl
  | p :: f, n => by
      have htext : p.erased.chars n = p.chars n := by cases p <;> rfl
      have hnext : p.erased.next n = p.next n := by cases p <;> rfl
      rw [erased_cons, charsFrom, charsFrom, htext, hnext, charsFrom_erased f]

/-- Without its values a fragment has as many parameters as before. -/
theorem length_params_erased : ∀ f : Fragment, f.erased.params.length = f.params.length
  | [] => rfl
  | p :: f => by
      rw [erased_cons]
      cases p with
      | param v =>
          rw [Piece.erased, params_param, params_param, List.length_cons, List.length_cons,
            length_params_erased f]
      | word | name | type | number => exact length_params_erased f

/-- Separators have no values. -/
theorem erased_separated (separator : String) :
    ∀ fs : List Fragment,
      erased (separated (.word separator) fs)
        = separated (.word separator) (fs.map erased)
  | [] => rfl
  | [f] => rfl
  | f :: g :: fs => by
      rw [separated_cons_cons, erased_append, erased_cons, erased_separated separator (g :: fs)]
      exact (separated_cons_cons _ _ _ _).symm

/-- Lists without values are lists of members without. -/
theorem erased_listed (fs : List Fragment) : erased (listed fs) = listed (fs.map erased) :=
  erased_separated ", " fs

/-- Fragments that are alike but for values have one text and as many
parameters. -/
theorem query_eq_of_erased {f g : Fragment} (h : f.erased = g.erased) :
    (Query.ofFragment f).sql = (Query.ofFragment g).sql
      ∧ (Query.ofFragment f).params.length = (Query.ofFragment g).params.length := by
  constructor
  · show String.ofList (f.charsFrom 1) = String.ofList (g.charsFrom 1)
    rw [← charsFrom_erased f, h, charsFrom_erased]
  · show f.params.length = g.params.length
    rw [← length_params_erased f, h, length_params_erased]

end Fragment

end Sql

-- ============================================================ conditions

namespace Condition

mutual

/-- The condition with nothing in the place of its values and patterns;
lists keep their lengths. -/
def erased : Condition → Condition
  | always => always
  | never => never
  | compare column op _ => compare column op .null
  | like column _ ignoreCase negated => like column "" ignoreCase negated
  | isNull column negated => isNull column negated
  | inList column values negated => inList column (values.map fun _ => .null) negated
  | between column _ _ negated => between column .null .null negated
  | and conditions => and (erasedAll conditions)
  | or conditions => or (erasedAll conditions)
  | not condition => not (erased condition)

def erasedAll : List Condition → List Condition
  | [] => []
  | c :: cs => erased c :: erasedAll cs

end

variable (table : Table)

/-- Values in the same column are written alike. -/
theorem paramSql_erased (column : String) (v w : Value) :
    (paramSql table column v).erased = (paramSql table column w).erased := by
  unfold paramSql
  split <;> rfl

/-- Joined members are written as they are without values. -/
theorem joinSql_erased (connective : String) (empty : Bool) (members : List Fragment) :
    (joinSql connective empty members).erased
      = (joinSql connective empty (members.map Fragment.erased)).erased := by
  have htwice : ∀ f : Fragment, f.erased.erased = f.erased := by
    intro f
    unfold Fragment.erased
    rw [List.map_map]
    congr 1
    funext p
    cases p <;> rfl
  unfold joinSql
  cases members with
  | nil => rfl
  | cons f fs =>
      simp [Fragment.erased_separated, htwice, Function.comp_def]

mutual

/-- The pieces of a condition are those of the erased one, but for
values. -/
theorem sql_erased : ∀ c : Condition, (c.sql table).erased = (c.erased.sql table).erased
  | always | never | isNull _ _ => rfl
  | compare column op v => by
      rw [erased, sql, sql, Fragment.erased_append, Fragment.erased_append,
        paramSql_erased table column v .null]
  | like column pattern ignoreCase negated => by
      simp only [erased, sql, Fragment.erased_append, Fragment.erased_cons, Piece.erased]
  | between column low high negated => by
      simp only [erased, sql, Fragment.erased_append, paramSql_erased table column low .null,
        paramSql_erased table column high .null]
  | inList column vs negated => by
      have hmembers : (vs.map (paramSql table column)).map Fragment.erased
          = ((vs.map fun _ => Value.null).map (paramSql table column)).map Fragment.erased := by
        simp only [List.map_map, Function.comp_def]
        exact List.map_congr_left fun v _ => paramSql_erased table column v .null
      have hempty : (vs.map fun _ => Value.null).isEmpty = vs.isEmpty := by cases vs <;> rfl
      rw [erased, sql, sql, hempty]
      split
      · rfl
      · simp only [Fragment.erased_append, Fragment.erased_listed, hmembers]
  | and cs => by
      rw [erased, sql, sql, joinSql_erased, sqlAll_erased cs, ← joinSql_erased]
  | or cs => by
      rw [erased, sql, sql, joinSql_erased, sqlAll_erased cs, ← joinSql_erased]
  | not c => by
      simp only [erased, sql, Fragment.erased_append, Fragment.erased_cons, sql_erased c]

/-- The members of a list are written as they are without values. -/
theorem sqlAll_erased : ∀ cs : List Condition,
    (sqlAll table cs).map Fragment.erased = (sqlAll table (erasedAll cs)).map Fragment.erased
  | [] => rfl
  | c :: cs => by
      rw [erasedAll, sqlAll, sqlAll, List.map_cons, List.map_cons, sql_erased c,
        sqlAll_erased cs]

end

end Condition

-- ================================================================ shapes

/-- Rows that have cells in the same columns of a table. -/
def Table.SameColumns (t : Table) (a b : Row) : Prop :=
  ∀ c ∈ t.columns, a.has c.name = b.has c.name

/-- Of two such rows both lack a cell, or both have one. -/
theorem Table.SameColumns.get? {t : Table} {a b : Row} (h : t.SameColumns a b) {c : Column}
    (hc : c ∈ t.columns) :
    (a.get? c.name = none ∧ b.get? c.name = none)
      ∨ ∃ v w, a.get? c.name = some v ∧ b.get? c.name = some w := by
  have hhas : (a.get? c.name).isSome = (b.get? c.name).isSome := h c hc
  cases ha : a.get? c.name with
  | none =>
      rw [ha] at hhas
      exact .inl ⟨rfl, Option.not_isSome_iff_eq_none.1 (by rw [← hhas]; decide)⟩
  | some v =>
      rw [ha] at hhas
      obtain ⟨w, hw⟩ := Option.isSome_iff_exists.1 hhas.symm
      exact .inr ⟨v, w, rfl, hw⟩

namespace Statement

/-- Statements of one kind on one table that differ only in the values
and patterns of their conditions, and in what the cells of their rows
hold. -/
inductive SameShape : Statement → Statement → Prop where
  | select {t : Table} {c c' : Option Condition} (order : List SortKey)
      (limit offset : Option Nat) (hc : c.map Condition.erased = c'.map Condition.erased) :
      SameShape (.select t ⟨c, order, limit, offset⟩) (.select t ⟨c', order, limit, offset⟩)
  | count {t : Table} {c c' : Option Condition}
      (hc : c.map Condition.erased = c'.map Condition.erased) :
      SameShape (.count t c) (.count t c')
  | insert {t : Table} {rows rows' : List Row}
      (hrows : List.Forall₂ t.SameColumns rows rows') :
      SameShape (.insert t rows) (.insert t rows')
  | update {t : Table} {c c' : Condition} {row row' : Row} (hc : c.erased = c'.erased)
      (hrow : t.SameColumns row row') : SameShape (.update t c row) (.update t c' row')
  | delete {t : Table} {c c' : Condition} (hc : c.erased = c'.erased) :
      SameShape (.delete t c) (.delete t c')

end Statement

-- ============================================================ statements

namespace Sql

variable {t : Table}

/-- Conditions that differ in their values only are written alike. -/
theorem sql_erased_congr {c c' : Condition} (h : c.erased = c'.erased) :
    (c.sql t).erased = (c'.sql t).erased := by
  rw [c.sql_erased t, h, ← c'.sql_erased t]

/-- Conditions that differ in their values only are written alike behind
WHERE. -/
theorem whereSql_erased_congr {c c' : Option Condition}
    (h : c.map Condition.erased = c'.map Condition.erased) :
    (whereSql t c).erased = (whereSql t c').erased := by
  cases c with
  | none =>
      cases c' with
      | none => rfl
      | some c' => cases h
  | some c =>
      cases c' with
      | none => cases h
      | some c' =>
          have hc := sql_erased_congr (t := t) (Option.some.inj h)
          simp only [whereSql, Fragment.erased_cons, hc]

/-- The columns of an insert depend on which columns its rows have. -/
theorem insertColumns_congr {rows rows' : List Row}
    (h : List.Forall₂ t.SameColumns rows rows') :
    insertColumns t rows = insertColumns t rows' := by
  refine List.filter_congr fun c hc => ?_
  induction h with
  | nil => rfl
  | cons hrow _ ih => rw [List.any_cons, List.any_cons, hrow c hc, ih]

/-- A tuple has a value or a default in a column by whether its row has a
cell there. -/
theorem tupleSql_erased_congr {columns : List Column} (hcolumns : ∀ c ∈ columns, c ∈ t.columns)
    {a b : Row} (h : t.SameColumns a b) :
    (tupleSql columns a).erased = (tupleSql columns b).erased := by
  have hentry : ∀ c ∈ columns, (entrySql a c).erased = (entrySql b c).erased := by
    intro c hc
    unfold entrySql
    rcases h.get? (hcolumns c hc) with ⟨ha, hb⟩ | ⟨v, w, ha, hb⟩
    · rw [ha, hb]
    · rw [ha, hb]
      rfl
  have htuple : ∀ row, tupleSql columns row
      = .word "(" :: Fragment.listed (columns.map (entrySql row)) ++ [.word ")"] :=
    fun _ => rfl
  simp only [htuple, Fragment.erased_append, Fragment.erased_cons, Fragment.erased_listed,
    List.map_map, Function.comp_def, List.map_congr_left hentry]

/-- Rows with cells in the same columns are inserted alike. -/
theorem insertSql_erased_congr {rows rows' : List Row}
    (h : List.Forall₂ t.SameColumns rows rows') :
    (insertSql t rows).erased = (insertSql t rows').erased := by
  have hcolumns := insertColumns_congr h
  by_cases hempty : insertColumns t rows = []
  · rw [insertSql_of_no_columns t hempty, insertSql_of_no_columns t (hcolumns ▸ hempty),
      h.length_eq]
  · have hmem : ∀ c ∈ insertColumns t rows, c ∈ t.columns :=
      fun c hc => (List.mem_filter.1 hc).1
    have htuples : (rows.map (tupleSql (insertColumns t rows))).map Fragment.erased
        = (rows'.map (tupleSql (insertColumns t rows))).map Fragment.erased := by
      generalize insertColumns t rows = columns at hmem
      clear hcolumns hempty
      induction h with
      | nil => rfl
      | cons hrow _ ih =>
          simp only [List.map_cons, tupleSql_erased_congr hmem hrow, ih]
    rw [insertSql_of_columns t rfl hempty, insertSql_of_columns t hcolumns.symm hempty]
    simp only [Fragment.erased_append, Fragment.erased_cons,
      Fragment.erased_listed, htuples]

/-- An update sets the columns that its row has. -/
theorem assignments_erased_congr {a b : Row} (h : t.SameColumns a b) :
    (assignments t a).map (fun set => (assignmentSql set).erased)
      = (assignments t b).map fun set => (assignmentSql set).erased := by
  unfold assignments
  rw [List.map_filterMap, List.map_filterMap]
  refine List.filterMap_congr fun c hc => ?_
  split
  case isTrue => rfl
  case isFalse =>
    rcases h.get? hc with ⟨ha, hb⟩ | ⟨v, w, ha, hb⟩
    · rw [ha, hb]
    · rw [ha, hb]
      rfl

/-- Rows with cells in the same columns are put into rows alike, under
conditions that are written alike. -/
theorem updateSql_erased_congr {c c' : Condition} {a b : Row} (hc : c.erased = c'.erased)
    (h : t.SameColumns a b) : (updateSql t c a).erased = (updateSql t c' b).erased := by
  have hsets := assignments_erased_congr h
  have hempty : assignments t a = [] ↔ assignments t b = [] := by
    rw [← List.map_eq_nil_iff (f := fun set => (assignmentSql set).erased), hsets,
      List.map_eq_nil_iff]
  have hcondition := sql_erased_congr (t := t) hc
  by_cases ha : assignments t a = []
  · rw [updateSql_of_no_assignments t ha, updateSql_of_no_assignments t (hempty.1 ha)]
    simp only [Fragment.erased_append, Fragment.erased_cons, hcondition]
  · rw [updateSql_of_assignments t rfl ha,
      updateSql_of_assignments t rfl fun hb => ha (hempty.2 hb)]
    simp only [Fragment.erased_append, Fragment.erased_cons, Fragment.erased_listed,
      List.map_map, Function.comp_def, hsets, hcondition]

end Sql

namespace Statement

/-- Statements of one shape have the same pieces but for values. -/
theorem sql_erased_of_sameShape {a b : Statement} (h : a.SameShape b) :
    a.sql.erased = b.sql.erased := by
  cases h with
  | select order limit offset hc =>
      simp only [sql, selectSql, Fragment.erased_append, whereSql_erased_congr hc]
  | count hc => simp only [sql, countSql, Fragment.erased_append, whereSql_erased_congr hc]
  | insert hrows => exact insertSql_erased_congr hrows
  | update hc hrow => exact updateSql_erased_congr hc hrow
  | delete hc =>
      simp only [sql, deleteSql, Fragment.erased_append, Fragment.erased_cons,
        sql_erased_congr hc]

/-- Statements of one shape are sent as one text; what tells them apart
are their values, which are sent behind it, as many for both. -/
theorem text_eq_of_sameShape {a b : Statement} (h : a.SameShape b) :
    a.toQuery.sql = b.toQuery.sql
      ∧ a.toQuery.params = a.bindings.map Binding.value
      ∧ b.toQuery.params = b.bindings.map Binding.value
      ∧ a.bindings.length = b.bindings.length := by
  have ha := params_toQuery a
  have hb := params_toQuery b
  obtain ⟨htext, hlength⟩ := Fragment.query_eq_of_erased (sql_erased_of_sameShape h)
  rw [← toQuery_eq, ← toQuery_eq] at htext hlength
  rw [ha, hb, List.length_map, List.length_map] at hlength
  exact ⟨htext, ha, hb, hlength⟩

/-- Values that look like SQL are sent with the text that harmless ones
are sent with; a cell in no column of the table does not count. -/
theorem text_eq_of_hostile_values :
    let table : Table := ⟨none, "users", "id", [⟨"id", "int8", true⟩, ⟨"name", "text", false⟩]⟩
    let update (id : Value) (name pattern : String) (row : Row) : Statement :=
      .update table
        (.and [.compare "id" .eq id, .not (.like "name" pattern true false),
          .or [.inList "name" [id, .string name] false, .between "age" .null id true]])
        (row.set "name" (.string name))
    let harmless := update (.int 1) "Ada" "A%" .empty
    let hostile := update (.string "1 OR 1 = 1") "$1\", \"id\" = 2; --" "\" OR \"\" = \""
      (Row.empty.set "admin" (.bool true))
    harmless.SameShape hostile
      ∧ harmless.toQuery.sql = hostile.toQuery.sql
      ∧ harmless.toQuery.params
        = [.string "Ada", .int 1, .string "A%", .int 1, .string "Ada", .null, .int 1]
      ∧ hostile.toQuery.params
        = [.string "$1\", \"id\" = 2; --", .string "1 OR 1 = 1", .string "\" OR \"\" = \"",
          .string "1 OR 1 = 1", .string "$1\", \"id\" = 2; --", .null, .string "1 OR 1 = 1"] := by
  intro table update harmless hostile
  have hshape : harmless.SameShape hostile := .update rfl (by unfold Table.SameColumns; decide)
  obtain ⟨htext, hharmless, hhostile, -⟩ := text_eq_of_sameShape hshape
  exact ⟨hshape, htext, hharmless, hhostile⟩

end Statement

end TableApi
