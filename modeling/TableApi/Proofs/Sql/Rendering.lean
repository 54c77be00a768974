/-
What is written is the pieces.

A statement is written with a counter: every value that is bound takes
the next number, wherever in the code it is bound, and texts are put
together afterwards. The pieces of a statement have their values in
place instead and number them from left to right. Both agree, because
values are bound in the order in which the text names them.

# The invariant

A computation *writes* a fragment if, from any values bound before, its
text is the fragment numbered from behind them, and it leaves them with
the values of the fragment at the end (`Writes`). A list of members is
threaded once (`run_mapM`); what differs from one construct to the next
is only the text around its members.
-/
import TableApi.Proofs.Sql.Reading
import TableApi.Sql.Render

namespace TableApi

open Json Sql

variable {α β : Type}

-- ======================================================= text in pieces

namespace Sql.Fragment

/-- The texts of fragments, each numbered from where the one before it
stops. -/
def textsFrom (n : Nat) : List Fragment → List (List Char)
  | [] => []
  | f :: fs => charsFrom n f :: textsFrom (n + (params f).length) fs

theorem separated_cons_cons (separator : Piece) (f g : Fragment) (fs : List Fragment) :
    separated separator (f :: g :: fs) = f ++ separator :: separated separator (g :: fs) := by
  simp [separated]

/-- Fragments with a separator between them are their texts with the
separator between them. -/
theorem charsFrom_separated (separator : String) :
    ∀ (fs : List Fragment) (n : Nat),
      charsFrom n (separated (.word separator) fs)
        = separator.toList.intercalate (textsFrom n fs)
  | [], _ => rfl
  | [f], n => by simp [separated, textsFrom]
  | f :: g :: fs, n => by
      rw [separated_cons_cons, charsFrom_append, charsFrom,
        charsFrom_separated separator (g :: fs)]
      simp [textsFrom, Piece.chars, Piece.next]

/-- A fragment without parameters has the same text at every number. -/
theorem textsFrom_replicate {f : Fragment} (hf : f.params = []) {text : List Char}
    (htext : ∀ n, charsFrom n f = text) (n : Nat) :
    ∀ k, textsFrom n (List.replicate k f) = List.replicate k text
  | 0 => rfl
  | k + 1 => by
      rw [List.replicate_succ, textsFrom, htext, hf, List.length_nil, Nat.add_zero,
        textsFrom_replicate hf htext n k, List.replicate_succ]

/-- The fragment binds nothing and is a fixed text. -/
structure Spells (f : Fragment) (text : String) : Prop where
  params_eq : f.params = []
  charsFrom_eq : ∀ n, f.charsFrom n = text.toList

/-- Fragments that spell their texts at every number do so one after the
other. -/
theorem Spells.textsFrom_map {f : α → Fragment} {text : α → String}
    (h : ∀ x, Spells (f x) (text x)) (n : Nat) :
    ∀ xs : List α, textsFrom n (xs.map f) = xs.map fun x => (text x).toList
  | [] => rfl
  | x :: xs => by
      rw [List.map_cons, textsFrom, (h x).charsFrom_eq, (h x).params_eq, List.length_nil,
        Nat.add_zero, Spells.textsFrom_map h n xs, List.map_cons]

/-- A list of fixed texts is a fixed text. -/
theorem Spells.listed {f : α → Fragment} {text : α → String}
    (h : ∀ x, Spells (f x) (text x)) (xs : List α) :
    Spells (Fragment.listed (xs.map f)) (", ".intercalate (xs.map text)) where
  params_eq := by
    rw [Fragment.listed, params_separated, List.flatMap_map]
    simp [fun x => (h x).params_eq]
  charsFrom_eq n := by
    rw [Fragment.listed, charsFrom_separated, Spells.textsFrom_map h, String.toList_intercalate,
      List.map_map]
    rfl

end Sql.Fragment

-- ============================================================== writing

namespace Sql

/-- From any values bound before, the computation writes the fragment
numbered from behind them, and binds the values of the fragment. -/
def Writes (w : Writer String) (f : Fragment) : Prop :=
  ∀ values : Array Value,
    w.run values
      = (String.ofList (f.charsFrom (values.size + 1)), values ++ f.params.toArray)

/-- A run ends as it does for a fragment if its text and its values are
those of the fragment. -/
theorem run_eq {text : String} {values bound : Array Value} {f : Fragment}
    (htext : text.toList = f.charsFrom (values.size + 1))
    (hbound : bound = values ++ f.params.toArray) :
    (text, bound)
      = (String.ofList (f.charsFrom (values.size + 1)), values ++ f.params.toArray) := by
  rw [hbound, ← htext, String.ofList_toList]

/-- What is written is the query of the fragment, if nothing was bound
before. -/
theorem Writes.query_eq {w : Writer String} {f : Fragment} (h : Writes w f) :
    w.query = Query.ofFragment f := by
  have hrun := h #[]
  unfold Writer.query
  rw [hrun]
  simp [Query.ofFragment]

/-- A fragment that only spells a text is written without a value. -/
theorem Fragment.Spells.writes {f : Fragment} {text : String} (h : f.Spells text) :
    Writes (pure text) f := by
  intro values
  exact run_eq (h.charsFrom_eq _).symm (by simp [h.params_eq])

/-- Members are written one by one, each numbered from where the one
before it stops. -/
theorem run_mapM {w : α → Writer String} {f : α → Fragment} :
    ∀ (xs : List α) (_ : ∀ x ∈ xs, Writes (w x) (f x)) (values : Array Value),
      (xs.mapM w).run values
        = ((Fragment.textsFrom (values.size + 1) (xs.map f)).map String.ofList,
            values ++ ((xs.map f).flatMap Fragment.params).toArray)
  | [], _, values => by
      have hrun : (([] : List α).mapM w).run values = ([], values) := rfl
      rw [hrun]
      simp only [Fragment.textsFrom, List.map_nil, List.flatMap_nil, Array.append_empty]
  | x :: xs, h, values => by
      have hx := h x List.mem_cons_self values
      have hxs := run_mapM xs (fun y hy => h y (List.mem_cons_of_mem _ hy))
        (values ++ (f x).params.toArray)
      have hrun : ((x :: xs).mapM w).run values
          = (((w x).run values).1 :: ((xs.mapM w).run ((w x).run values).2).1,
              ((xs.mapM w).run ((w x).run values).2).2) := by
        rw [List.mapM_cons]
        rfl
      rw [hrun, hx, hxs]
      simp [Fragment.textsFrom, Nat.add_right_comm]

/-- Members with commas between them are written if the members are. -/
theorem run_listed {w : α → Writer String} {f : α → Fragment} (xs : List α)
    (h : ∀ x ∈ xs, Writes (w x) (f x)) (values : Array Value) :
    ", ".intercalate ((xs.mapM w).run values).1
        = String.ofList ((Fragment.listed (xs.map f)).charsFrom (values.size + 1))
      ∧ ((xs.mapM w).run values).2
        = values ++ (Fragment.listed (xs.map f)).params.toArray := by
  rw [run_mapM xs h values]
  refine ⟨String.ext ?_, ?_⟩
  · simp [Fragment.listed, Fragment.charsFrom_separated, Function.comp_def]
  · rw [Fragment.listed, Fragment.params_separated]

/-- A cast is written as it is in pieces. -/
theorem renderCast_writes (c : Column) (v : Value) : Writes (renderCast c v) (cast c v) := by
  intro values
  have hrun : (renderCast c v).run values
      = (numbered (values.size + 1) ++ "::" ++ c.type, values.push v) := rfl
  rw [hrun]
  refine run_eq ?_ (by simp [cast])
  simp [numbered, cast, Fragment.charsFrom, Piece.chars]

end Sql

-- ============================================================ conditions

namespace Condition

/-- A value is pushed, and its placeholder has the number of values then. -/
theorem renderParam_writes (table : Table) (column : String) (v : Value) :
    Writes (renderParam table column v) (paramSql table column v) := by
  intro values
  unfold renderParam paramSql
  cases table.column? column with
  | none =>
      have hrun : StateT.run (do let n ← pushParam v; return numbered n : Writer String) values
          = (numbered (values.size + 1), values.push v) := rfl
      refine hrun.trans (run_eq ?_ (by simp))
      simp [numbered, Fragment.charsFrom, Piece.chars]
  | some c => exact renderCast_writes c v values

/-- A negation spells NOT, or nothing. -/
theorem notSql_spells (negated : Bool) : (notSql negated).Spells (notText negated) := by
  cases negated with
  | false => exact ⟨rfl, fun _ => rfl⟩
  | true => exact ⟨rfl, fun _ => rfl⟩

/-- A constant spells a comparison of numbers. -/
theorem constantSql_spells (b : Bool) :
    (constantSql b).Spells (if b then "1 = 1" else "1 = 0") := by
  cases b with
  | false => exact ⟨rfl, fun _ => rfl⟩
  | true => exact ⟨rfl, fun _ => rfl⟩

/-- A comparison writes its fragment. -/
theorem compare_writes (table : Table) (column : String) (op : CompareOp) (v : Value) :
    Writes (render table (.compare column op v)) (sql table (.compare column op v)) := by
  intro values
  have hrun : (render table (.compare column op v)).run values
      = (quoted column ++ " " ++ op.sql ++ " "
            ++ ((renderParam table column v).run values).1,
          ((renderParam table column v).run values).2) := by
    rw [render]
    rfl
  rw [hrun, renderParam_writes table column v values]
  refine run_eq ?_ (by simp [sql])
  simp [quoted, sql, Fragment.charsFrom, Piece.chars, Piece.next]

/-- A pattern test writes its fragment. -/
theorem like_writes (table : Table) (column pattern : String) (ignoreCase negated : Bool) :
    Writes (render table (.like column pattern ignoreCase negated))
      (sql table (.like column pattern ignoreCase negated)) := by
  intro values
  have hrun : (render table (.like column pattern ignoreCase negated)).run values
      = (quoted column ++ "::text " ++ notText negated
            ++ (if ignoreCase then "ILIKE" else "LIKE") ++ " " ++ numbered (values.size + 1),
          values.push (.string pattern)) := by
    rw [render]
    rfl
  rw [hrun]
  refine run_eq ?_ (by simp [sql, Fragment.params_append])
  have hnot := (notSql_spells negated).charsFrom_eq (values.size + 1)
  cases ignoreCase <;>
    simp [quoted, numbered, sql, Fragment.charsFrom, Fragment.charsFrom_append, Piece.chars,
      Piece.next, hnot]

/-- A test for null writes its fragment. -/
theorem isNull_writes (table : Table) (column : String) (negated : Bool) :
    Writes (render table (.isNull column negated)) (sql table (.isNull column negated)) := by
  refine Fragment.Spells.writes ⟨by simp [sql, Fragment.params_append], fun n => ?_⟩
  simp [quoted, sql, Fragment.charsFrom, Fragment.charsFrom_append, Piece.chars, Piece.next,
    (notSql_spells negated).charsFrom_eq]

/-- A membership test writes its fragment; an empty list writes a constant.
-/
theorem inList_writes (table : Table) (column : String) (vs : List Value) (negated : Bool) :
    Writes (render table (.inList column vs negated))
      (sql table (.inList column vs negated)) := by
  unfold render sql
  cases vs with
  | nil => exact (constantSql_spells negated).writes
  | cons v vs =>
      intro values
      obtain ⟨htext, hbound⟩ :=
        run_listed (v :: vs) (fun w _ => renderParam_writes table column w) values
      have hrun : StateT.run (do
            let params ← (v :: vs).mapM (renderParam table column)
            return quoted column ++ " " ++ notText negated ++ "IN ("
              ++ ", ".intercalate params ++ ")" : Writer String) values
          = (quoted column ++ " " ++ notText negated ++ "IN ("
                ++ ", ".intercalate (((v :: vs).mapM (renderParam table column)).run values).1
                ++ ")",
              (((v :: vs).mapM (renderParam table column)).run values).2) := rfl
      refine hrun.trans ?_
      rw [htext, hbound]
      refine run_eq ?_ (by simp [Fragment.params_append])
      simp [quoted, Fragment.charsFrom, Fragment.charsFrom_append, Piece.chars, Piece.next,
        (notSql_spells negated).charsFrom_eq]

/-- A range test writes its fragment. -/
theorem between_writes (table : Table) (column : String) (low high : Value)
    (negated : Bool) :
    Writes (render table (.between column low high negated))
      (sql table (.between column low high negated)) := by
  intro values
  have hlow := renderParam_writes table column low values
  have hhigh := renderParam_writes table column high (values ++ #[low])
  rw [params_paramSql] at hlow hhigh
  have hrun : (render table (.between column low high negated)).run values
      = (quoted column ++ " " ++ notText negated ++ "BETWEEN "
            ++ ((renderParam table column low).run values).1 ++ " AND "
            ++ ((renderParam table column high).run
                  ((renderParam table column low).run values).2).1,
          ((renderParam table column high).run
            ((renderParam table column low).run values).2).2) := by
    rw [render]
    rfl
  rw [hrun, hlow, hhigh]
  refine run_eq ?_ (Array.toList_inj.1 (by simp [sql, Fragment.params_append]))
  simp [quoted, sql, Fragment.charsFrom, Fragment.charsFrom_append, Piece.chars, Piece.next,
    (notSql_spells negated).charsFrom_eq]

/-- Members in parentheses are written if the members are. -/
theorem joinText_eq (connective : String) (empty : Bool) (members : List Fragment)
    (n : Nat) :
    (joinText connective (if empty then "1 = 1" else "1 = 0")
        ((Fragment.textsFrom n members).map String.ofList)).toList
      = (joinSql connective empty members).charsFrom n := by
  unfold joinText joinSql
  cases members with
  | nil => exact ((constantSql_spells empty).charsFrom_eq n).symm
  | cons f fs =>
      have hne : ((Fragment.textsFrom n (f :: fs)).map String.ofList).isEmpty = false := rfl
      rw [hne]
      simp [Fragment.charsFrom, Fragment.charsFrom_append, Fragment.charsFrom_separated,
        Piece.chars, Piece.next, Function.comp_def]

mutual

/-- A condition is written as it is in pieces. -/
theorem render_writes (table : Table) : ∀ c : Condition, Writes (c.render table) (c.sql table)
  | always => (constantSql_spells true).writes
  | never => (constantSql_spells false).writes
  | compare column op v => compare_writes table column op v
  | like column pattern ignoreCase negated =>
      like_writes table column pattern ignoreCase negated
  | isNull column negated => isNull_writes table column negated
  | inList column vs negated => inList_writes table column vs negated
  | between column low high negated => between_writes table column low high negated
  | and cs => by
      intro values
      have hrun : (render table (.and cs)).run values
          = (joinText " AND " "1 = 1" ((renderAll table cs).run values).1,
              ((renderAll table cs).run values).2) := by
        rw [render]
        rfl
      rw [hrun, run_renderAll table cs values, sql]
      exact run_eq (joinText_eq " AND " true _ _) (by rw [params_joinSql])
  | or cs => by
      intro values
      have hrun : (render table (.or cs)).run values
          = (joinText " OR " "1 = 0" ((renderAll table cs).run values).1,
              ((renderAll table cs).run values).2) := by
        rw [render]
        rfl
      rw [hrun, run_renderAll table cs values, sql]
      exact run_eq (joinText_eq " OR " false _ _) (by rw [params_joinSql])
  | not c => by
      intro values
      have hrun : (render table (.not c)).run values
          = ("NOT (" ++ ((render table c).run values).1 ++ ")",
              ((render table c).run values).2) := by
        rw [render]
        rfl
      rw [hrun, render_writes table c values]
      refine run_eq ?_ (by simp [sql, Fragment.params_append])
      simp [sql, Fragment.charsFrom, Fragment.charsFrom_append, Piece.chars, Piece.next]

/-- The members of a list are written one after the other, numbered on. -/
theorem run_renderAll (table : Table) :
    ∀ (cs : List Condition) (values : Array Value),
      (renderAll table cs).run values
        = ((Fragment.textsFrom (values.size + 1) (sqlAll table cs)).map String.ofList,
            values ++ ((sqlAll table cs).flatMap Fragment.params).toArray)
  | [], values => by
      have hrun : (renderAll table []).run values = ([], values) := by
        rw [renderAll]
        rfl
      rw [hrun, sqlAll]
      simp [Fragment.textsFrom]
  | c :: cs, values => by
      have hc := render_writes table c values
      have hcs := run_renderAll table cs (values ++ (c.sql table).params.toArray)
      have hrun : (renderAll table (c :: cs)).run values
          = (((render table c).run values).1
                :: ((renderAll table cs).run ((render table c).run values).2).1,
              ((renderAll table cs).run ((render table c).run values).2).2) := by
        rw [renderAll]
        rfl
      rw [hrun, hc, hcs, sqlAll]
      simp [Fragment.textsFrom, Nat.add_right_comm]

end

/-- A condition by itself is sent as its pieces. -/
theorem toQuery_eq (table : Table) (c : Condition) :
    c.toQuery table = Query.ofFragment (c.sql table) :=
  (render_writes table c).query_eq

end Condition

-- ============================================================ statements

namespace Sql

variable (t : Table)

/-- The name of a table spells its quoted text. -/
theorem sqlName_spells : t.sqlName.Spells (tableText t) := by
  unfold Table.sqlName tableText
  cases t.schema with
  | none => exact ⟨rfl, fun n => by simp [quoted, Fragment.charsFrom, Piece.chars]⟩
  | some schema => exact ⟨rfl, fun n => by simp [quoted, Fragment.charsFrom, Piece.chars]⟩

/-- The columns of a table spell their quoted names. -/
theorem sqlColumns_spells : t.sqlColumns.Spells (columnsText t) := by
  refine Fragment.Spells.listed (fun c => ?_) t.columns
  split
  · exact ⟨rfl, fun n => by simp [quoted, Fragment.charsFrom, Piece.chars]⟩
  · exact ⟨rfl, fun n => by simp [quoted, Fragment.charsFrom, Piece.chars]⟩

/-- An order spells its clause, or nothing. -/
theorem orderSql_spells (order : List SortKey) : (orderSql order).Spells (orderText order) := by
  unfold orderSql orderText
  split
  case isTrue => exact ⟨rfl, fun _ => rfl⟩
  case isFalse =>
    have hkeys : (Fragment.listed (order.map fun key =>
        [.name key.column, .word (directionSql key.direction)])).Spells
          (", ".intercalate (order.map fun key =>
            quoted key.column ++ directionSql key.direction)) :=
      .listed (fun key => ⟨rfl, fun n => by simp [quoted, Fragment.charsFrom, Piece.chars]⟩) _
    refine ⟨hkeys.params_eq, fun n => ?_⟩
    rw [String.toList_append, ← hkeys.charsFrom_eq n]
    rfl

/-- A limit or an offset spells its clause, or nothing. -/
theorem numberSql_spells (clause : String) (n : Option Nat) :
    (numberSql clause n).Spells (numberText clause n) := by
  cases n with
  | none => exact ⟨rfl, fun _ => rfl⟩
  | some n =>
      exact ⟨rfl, fun _ => by simp [numberSql, numberText, Fragment.charsFrom, Piece.chars]⟩

/-- A condition behind WHERE writes its fragment, and none writes nothing.
-/
theorem renderWhere_writes (condition : Option Condition) :
    Writes (renderWhere t condition) (whereSql t condition) := by
  cases condition with
  | none => exact Fragment.Spells.writes ⟨rfl, fun _ => rfl⟩
  | some c =>
      intro values
      have hrun : (renderWhere t (some c)).run values
          = (" WHERE " ++ ((c.render t).run values).1, ((c.render t).run values).2) := rfl
      rw [hrun, c.render_writes t values]
      refine run_eq ?_ (by simp [whereSql])
      simp [whereSql, Fragment.charsFrom, Piece.chars, Piece.next]

/-- A search writes its fragment. -/
theorem renderSelect_writes (s : Selection) :
    Writes (renderSelect t s) (selectSql t s) := by
  intro values
  have hrun : (renderSelect t s).run values
      = ("SELECT " ++ columnsText t ++ " FROM " ++ tableText t
            ++ ((renderWhere t s.condition).run values).1 ++ orderText s.order
            ++ numberText " OFFSET " s.offset ++ numberText " LIMIT " s.limit,
          ((renderWhere t s.condition).run values).2) := rfl
  rw [hrun, renderWhere_writes t s.condition values]
  have hname := sqlName_spells t
  have hcolumns := sqlColumns_spells t
  have horder := orderSql_spells s.order
  have hoffset := numberSql_spells " OFFSET " s.offset
  have hlimit := numberSql_spells " LIMIT " s.limit
  refine run_eq ?_ ?_
  · simp [selectSql, Fragment.charsFrom, Fragment.charsFrom_append, Piece.chars, Piece.next,
      hname.charsFrom_eq, hname.params_eq, hcolumns.charsFrom_eq, hcolumns.params_eq,
      horder.charsFrom_eq, hoffset.charsFrom_eq, hlimit.charsFrom_eq]
  · simp [selectSql, Fragment.params_append, hname.params_eq, hcolumns.params_eq,
      horder.params_eq, hoffset.params_eq, hlimit.params_eq]

/-- A count writes its fragment. -/
theorem renderCount_writes (condition : Option Condition) :
    Writes (renderCount t condition) (countSql t condition) := by
  intro values
  have hrun : (renderCount t condition).run values
      = ("SELECT COUNT(*) AS " ++ quoted "count" ++ " FROM " ++ tableText t
            ++ ((renderWhere t condition).run values).1,
          ((renderWhere t condition).run values).2) := rfl
  rw [hrun, renderWhere_writes t condition values]
  have hname := sqlName_spells t
  refine run_eq ?_ ?_
  · simp [countSql, quoted, Fragment.charsFrom, Fragment.charsFrom_append, Piece.chars,
      Piece.next, hname.charsFrom_eq, hname.params_eq]
  · simp [countSql, Fragment.params_append, hname.params_eq]

/-- A cell of a tuple. -/
def entrySql (row : Row) (c : Column) : Fragment :=
  match row.get? c.name with
  | some v => cast c v
  | none => [.word "DEFAULT"]

/-- An entry of a tuple writes the placeholder of its value, or DEFAULT. -/
theorem renderEntry_writes (row : Row) (c : Column) :
    Writes (renderEntry row c) (entrySql row c) := by
  unfold renderEntry entrySql
  cases row.get? c.name with
  | none => exact Fragment.Spells.writes ⟨rfl, fun _ => rfl⟩
  | some v => exact renderCast_writes c v

/-- A tuple writes its entries. -/
theorem renderTuple_writes (columns : List Column) (row : Row) :
    Writes (renderTuple columns row) (tupleSql columns row) := by
  intro values
  have hrun : (renderTuple columns row).run values
      = ("(" ++ ", ".intercalate ((columns.mapM (renderEntry row)).run values).1 ++ ")",
          ((columns.mapM (renderEntry row)).run values).2) := rfl
  obtain ⟨htext, hbound⟩ :=
    run_listed columns (fun c _ => renderEntry_writes row c) values
  have htuple : tupleSql columns row
      = .word "(" :: Fragment.listed (columns.map (entrySql row)) ++ [.word ")"] := rfl
  rw [hrun, htext, hbound, htuple]
  refine run_eq ?_ (by simp [Fragment.params_append])
  simp [Fragment.charsFrom, Fragment.charsFrom_append, Piece.chars, Piece.next]

/-- Rows that have a known column are inserted as tuples of the columns
that some of them has. -/
theorem insertSql_of_columns {rows : List Row} {columns : List Column}
    (h : insertColumns t rows = columns) (hne : columns ≠ []) :
    insertSql t rows
      = .word "INSERT INTO " :: t.sqlName ++ .word " ("
        :: Fragment.listed (columns.map fun c => [.name c.name]) ++ .word ") VALUES "
        :: Fragment.listed (rows.map (tupleSql columns)) ++ .word " RETURNING "
        :: t.sqlColumns := by
  unfold insertSql insertParts
  rw [h]
  cases columns with
  | nil => exact absurd rfl hne
  | cons c cs => rfl

/-- Other rows become defaults of the primary key. -/
theorem insertSql_of_no_columns {rows : List Row} (h : insertColumns t rows = []) :
    insertSql t rows
      = .word "INSERT INTO " :: t.sqlName ++ .word " (" :: [.name t.primaryKey]
        ++ .word ") VALUES " :: Fragment.listed
          (List.replicate (max 1 rows.length) [.word "(", .word "DEFAULT", .word ")"])
        ++ .word " RETURNING " :: t.sqlColumns := by
  unfold insertSql insertParts
  rw [h]

/-- An insert writes its fragment, whatever columns are given. -/
theorem renderInsert_writes (rows : List Row) :
    Writes (renderInsert t rows) (insertSql t rows) := by
  intro values
  have hname := sqlName_spells t
  have hreturning := sqlColumns_spells t
  by_cases hempty : insertColumns t rows = []
  · have hdefault : ∀ n, Fragment.charsFrom n [.word "(", .word "DEFAULT", .word ")"]
        = "(DEFAULT)".toList := fun _ => rfl
    have hrun : (renderInsert t rows).run values
        = ("INSERT INTO " ++ tableText t ++ " (" ++ quoted t.primaryKey ++ ") VALUES "
            ++ ", ".intercalate (List.replicate (max 1 rows.length) "(DEFAULT)")
            ++ " RETURNING " ++ columnsText t, values) := by
      unfold renderInsert
      rw [hempty]
      rfl
    rw [hrun, insertSql_of_no_columns t hempty]
    refine run_eq ?_ ?_
    · simp [quoted, Fragment.charsFrom, Fragment.charsFrom_append, Piece.chars, Piece.next,
        Fragment.listed, Fragment.charsFrom_separated,
        Fragment.textsFrom_replicate rfl hdefault, hname.charsFrom_eq, hname.params_eq,
        hreturning.charsFrom_eq]
    · simp [Fragment.params_append, Fragment.listed, Fragment.params_separated,
        hname.params_eq, hreturning.params_eq]
  · rw [insertSql_of_columns t rfl hempty]
    unfold renderInsert
    generalize insertColumns t rows = columns at hempty ⊢
    have hnames : (Fragment.listed (columns.map fun c => [.name c.name])).Spells
        (", ".intercalate (columns.map fun c => quoted c.name)) :=
      .listed (fun c => ⟨rfl, fun n => by simp [quoted, Fragment.charsFrom, Piece.chars]⟩) _
    obtain ⟨htext, hbound⟩ :=
      run_listed rows (fun row _ => renderTuple_writes columns row) values
    rw [if_neg fun h => hempty (List.isEmpty_iff.1 h)]
    have hrun : StateT.run (do
          let tuples ← rows.mapM (renderTuple columns)
          return "INSERT INTO " ++ tableText t ++ " ("
            ++ ", ".intercalate (columns.map fun c => quoted c.name) ++ ") VALUES "
            ++ ", ".intercalate tuples ++ " RETURNING " ++ columnsText t : Writer String) values
        = ("INSERT INTO " ++ tableText t ++ " ("
            ++ ", ".intercalate (columns.map fun c => quoted c.name) ++ ") VALUES "
            ++ ", ".intercalate ((rows.mapM (renderTuple columns)).run values).1
            ++ " RETURNING " ++ columnsText t,
            ((rows.mapM (renderTuple columns)).run values).2) := rfl
    refine hrun.trans ?_
    rw [htext, hbound]
    refine run_eq ?_ ?_
    · simp [Fragment.charsFrom, Fragment.charsFrom_append, Piece.chars, Piece.next,
        hname.charsFrom_eq, hname.params_eq, hnames.charsFrom_eq, hnames.params_eq,
        hreturning.charsFrom_eq]
    · simp [Fragment.params_append, hname.params_eq, hnames.params_eq, hreturning.params_eq]

/-- One column that an update sets. -/
def assignmentSql (set : Column × Value) : Fragment :=
  [.name set.1.name, .word " = "] ++ cast set.1 set.2

/-- An assignment writes its column and the placeholder of its value. -/
theorem renderAssignment_writes (set : Column × Value) :
    Writes (renderAssignment set) (assignmentSql set) := by
  intro values
  have hrun : (renderAssignment set).run values
      = (quoted set.1.name ++ " = " ++ ((renderCast set.1 set.2).run values).1,
          ((renderCast set.1 set.2).run values).2) := rfl
  rw [hrun, renderCast_writes set.1 set.2 values]
  refine run_eq ?_ (by simp [assignmentSql])
  simp [quoted, assignmentSql, Fragment.charsFrom, Piece.chars, Piece.next]

/-- An update that sets columns. -/
theorem updateSql_of_assignments {condition : Condition} {values : Row}
    {sets : List (Column × Value)} (h : assignments t values = sets) (hne : sets ≠ []) :
    updateSql t condition values
      = .word "UPDATE " :: t.sqlName ++ .word " SET "
        :: Fragment.listed (sets.map assignmentSql) ++ .word " WHERE " :: condition.sql t
        ++ .word " RETURNING " :: t.sqlColumns := by
  unfold updateSql
  rw [h]
  cases sets with
  | nil => exact absurd rfl hne
  | cons set sets => rfl

/-- An update that sets nothing selects the rows instead. -/
theorem updateSql_of_no_assignments {condition : Condition} {values : Row}
    (h : assignments t values = []) :
    updateSql t condition values
      = .word "SELECT " :: t.sqlColumns ++ .word " FROM " :: t.sqlName
        ++ .word " WHERE " :: condition.sql t := by
  unfold updateSql
  rw [h]

/-- An update writes its fragment. -/
theorem renderUpdate_writes (condition : Condition) (row : Row) :
    Writes (renderUpdate t condition row) (updateSql t condition row) := by
  intro values
  have hname := sqlName_spells t
  have hreturning := sqlColumns_spells t
  by_cases hempty : assignments t row = []
  · have hrun : (renderUpdate t condition row).run values
        = ("SELECT " ++ columnsText t ++ " FROM " ++ tableText t ++ " WHERE "
            ++ ((condition.render t).run values).1, ((condition.render t).run values).2) := by
      unfold renderUpdate
      rw [hempty]
      rfl
    rw [hrun, condition.render_writes t values, updateSql_of_no_assignments t hempty]
    refine run_eq ?_ ?_
    · simp [Fragment.charsFrom, Fragment.charsFrom_append, Piece.chars, Piece.next,
        hname.charsFrom_eq, hname.params_eq, hreturning.charsFrom_eq, hreturning.params_eq]
    · simp [Fragment.params_append, hname.params_eq, hreturning.params_eq]
  · obtain ⟨set, sets, hsets⟩ := List.exists_cons_of_ne_nil hempty
    obtain ⟨htext, hbound⟩ :=
      run_listed (set :: sets) (fun set _ => renderAssignment_writes set) values
    have hrun : (renderUpdate t condition row).run values
        = ("UPDATE " ++ tableText t ++ " SET "
            ++ ", ".intercalate (((set :: sets).mapM renderAssignment).run values).1
            ++ " WHERE "
            ++ ((condition.render t).run
                (((set :: sets).mapM renderAssignment).run values).2).1
            ++ " RETURNING " ++ columnsText t,
            ((condition.render t).run
              (((set :: sets).mapM renderAssignment).run values).2).2) := by
      unfold renderUpdate
      rw [hsets, List.mapM_cons]
      rfl
    rw [hrun, htext, hbound, condition.render_writes t,
      updateSql_of_assignments t hsets (by simp)]
    refine run_eq ?_ ?_
    · simp [Fragment.charsFrom, Fragment.charsFrom_append, Piece.chars, Piece.next,
        hname.charsFrom_eq, hname.params_eq, hreturning.charsFrom_eq,
        Nat.add_right_comm _ _ 1]
    · simp [Fragment.params_append, hname.params_eq, hreturning.params_eq]

/-- A deletion writes its fragment. -/
theorem renderDelete_writes (condition : Condition) :
    Writes (renderDelete t condition) (deleteSql t condition) := by
  intro values
  have hrun : (renderDelete t condition).run values
      = ("DELETE FROM " ++ tableText t ++ " WHERE " ++ ((condition.render t).run values).1,
          ((condition.render t).run values).2) := rfl
  rw [hrun, condition.render_writes t values]
  have hname := sqlName_spells t
  refine run_eq ?_ ?_
  · simp [deleteSql, Fragment.charsFrom, Fragment.charsFrom_append, Piece.chars, Piece.next,
      hname.charsFrom_eq, hname.params_eq]
  · simp [deleteSql, Fragment.params_append, hname.params_eq]

end Sql

namespace Statement

/-- A statement of any kind writes its fragment. -/
theorem render_writes : ∀ s : Statement, Writes s.render s.sql
  | select t s => renderSelect_writes t s
  | count t condition => renderCount_writes t condition
  | insert t rows => renderInsert_writes t rows
  | update t condition values => renderUpdate_writes t condition values
  | delete t condition => renderDelete_writes t condition

/-- A statement is sent as its pieces: numbered from left to right, with
their values in that order. -/
theorem toQuery_eq (s : Statement) : s.toQuery = Query.ofFragment s.sql :=
  (render_writes s).query_eq

end Statement

end TableApi
