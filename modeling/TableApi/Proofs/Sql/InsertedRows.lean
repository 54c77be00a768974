/-
The text of an insert and the rows in it.

An insert names the columns that some of its rows have a cell in, and
writes a tuple for every row with an entry for each of these columns, so
a row that has no cell in one of them still holds the place with
`DEFAULT`. Rows without any known column are defaults of the primary key.
`WritesRows` says so of a query; it speaks of the text as a whole, not of
how it is put together.

# Reading the rows back

The rows are determined by the text and the values: whoever knows the
table can read them back (`insertedRows?`), less the cells under names
that are no columns. The reader goes through the text once. The names
tell which columns there are entries for, and quotes inside of them
cannot end them; each entry begins with a `D` or a dollar sign and goes
on for as long as the type of its column does, so that nothing has to be
assumed of types. That the reader is right is shown from `WritesRows`
alone, entry by entry, tuple by tuple, and is no matter of how an insert
is written.
-/
import Mathlib.Data.List.Forall2
import TableApi.Proofs.Sql.Identifiers

namespace TableApi

open Json Sql

-- ================================================================ columns

namespace Row

/-- The cells of a row in columns, each under the name of its column. -/
def cellsIn (row : Row) (columns : List Column) : List (String × Value) :=
  columns.filterMap fun c => (row.get? c.name).map fun v => (c.name, v)

theorem cellsIn_nil (row : Row) : row.cellsIn [] = [] := rfl

/-- The cell in the first column comes first, if there is one. -/
theorem cellsIn_cons (row : Row) (c : Column) (columns : List Column) :
    row.cellsIn (c :: columns)
      = ((row.get? c.name).map fun v => (c.name, v)).toList ++ row.cellsIn columns := by
  cases h : row.get? c.name with
  | none => simp [cellsIn, h]
  | some v => simp [cellsIn, h]

/-- In columns where a row has no cells nothing is found. -/
theorem cellsIn_eq_nil {row : Row} {columns : List Column}
    (h : ∀ c ∈ columns, row.has c.name = false) : row.cellsIn columns = [] := by
  rw [cellsIn, List.filterMap_eq_nil_iff]
  intro c hc
  have hcell : (row.get? c.name).isSome = false := h c hc
  rw [Option.isSome_eq_false_iff, Option.isNone_iff_eq_none] at hcell
  rw [hcell]
  rfl

/-- Cells in columns that are set on a row stand in front of those it
has. -/
theorem get?_foldl_cellsIn (row : Row) (name : String) :
    ∀ (columns : List Column) (base : Row),
      ((row.cellsIn columns).foldl (fun row field => row.set field.1 field.2) base).get? name
        = (if columns.any (·.name == name) then row.get? name else none).or (base.get? name)
  | [], base => by simp [cellsIn_nil]
  | c :: columns, base => by
      rw [cellsIn_cons, List.foldl_append]
      cases hcell : row.get? c.name with
      | none =>
          rw [Option.map_none, Option.toList_none, List.foldl_nil, get?_foldl_cellsIn]
          by_cases hname : c.name = name
          · simp [← hname, hcell]
          · simp [hname]
      | some v =>
          rw [Option.map_some, Option.toList_some, List.foldl_cons, List.foldl_nil,
            get?_foldl_cellsIn, get?_set]
          by_cases hname : c.name = name
          · subst hname
            rw [hcell, if_pos rfl, List.any_cons, beq_self_eq_true, Bool.true_or, if_pos rfl]
            split
            · rfl
            · rfl
          · simp [hname, Ne.symm hname]

/-- Of the fields whose keys are kept, each is where it was. -/
theorem getField?_filter (p : String → Bool) (name : String) (fields : List (String × Value)) :
    getField? name (fields.filter fun field => p field.1)
      = if p name then getField? name fields else none := by
  induction fields with
  | nil => simp [getField?]
  | cons field fields ih =>
      obtain ⟨key, v⟩ := field
      by_cases hname : name = key
      · cases hp : p key with
        | true => simp [hname, hp, getField?]
        | false =>
            rw [List.filter_cons_of_neg (by simp [hp]), ih]
            simp [hname, hp]
      · cases hp : p key with
        | true =>
            rw [List.filter_cons_of_pos (by simp [hp]), getField?, getField?, if_neg hname,
              if_neg hname, ih]
        | false => rw [List.filter_cons_of_neg (by simp [hp]), ih, getField?, if_neg hname]

end Row

namespace Table

/-- A row less the cells that are in no column of the table. -/
def restrict (t : Table) (row : Row) : Row where
  fields := row.fields.filter fun field => t.columns.any (·.name == field.1)
  ascending := row.ascending.filter _

/-- The cells in all the columns make up the row, as far as the table
knows it. -/
theorem ofFields_cellsIn (t : Table) (row : Row) :
    Row.ofFields (row.cellsIn t.columns) = t.restrict row := by
  refine Row.ext fun name => ?_
  have hrestrict : (t.restrict row).get? name
      = if t.columns.any (·.name == name) then row.get? name else none :=
    Row.getField?_filter (fun key => t.columns.any (·.name == key)) name row.fields
  rw [hrestrict, Row.ofFields, Row.get?_foldl_cellsIn, Row.get?_empty, Option.or_none]

end Table

namespace Sql

-- ============================================================== the text

/-- What stands in a tuple for the cell of a row in a column: the number
of its value, cast to the type of the column, or `DEFAULT` where the row
has no cell. A null is a value like any other. -/
inductive IsEntry (params : List Value) (row : Row) (c : Column) : String → Prop where
  | default : row.get? c.name = none → IsEntry params row c "DEFAULT"
  | bound {v : Value} {n : Nat} : row.get? c.name = some v → params[n]? = some v →
      IsEntry params row c (numbered (n + 1) ++ "::" ++ c.type)

/-- An entry for each column, in the order of the columns. -/
def IsTuple (params : List Value) (columns : List Column) (row : Row) (text : String) : Prop :=
  ∃ entries, List.Forall₂ (IsEntry params row) columns entries
    ∧ text = "(" ++ ", ".intercalate entries ++ ")"

/-- An insert into columns with these names of these tuples. -/
def insertText (t : Table) (names tuples : List String) : String :=
  "INSERT INTO " ++ tableText t ++ " (" ++ ", ".intercalate names ++ ") VALUES "
    ++ ", ".intercalate tuples ++ " RETURNING " ++ columnsText t

/-- The query inserts the rows, a tuple for each of them in their order:
either of the columns that some row has a cell in, or, if there are none,
of the default of the primary key. -/
inductive WritesRows (t : Table) (rows : List Row) : Query → Prop where
  | cells {columns : List Column} {tuples : List String} {params : List Value}
      (hcolumns : columns = t.columns.filter fun c => ∃ row ∈ rows, row.has c.name)
      (hne : columns ≠ []) (htuples : List.Forall₂ (IsTuple params columns) rows tuples) :
      WritesRows t rows ⟨insertText t (columns.map fun c => quoted c.name) tuples, params⟩
  | defaults (hnone : ∀ c ∈ t.columns, ∀ row ∈ rows, row.has c.name = false) :
      WritesRows t rows ⟨insertText t [quoted t.primaryKey] (rows.map fun _ => "(DEFAULT)"), []⟩

/-- What is true of the text of each fragment wherever its values stand is
true of the texts of fragments one after another. -/
theorem Fragment.forall₂_textsFrom {α : Type} {R : α → String → Prop} {f : α → Fragment}
    {values : List Value}
    (h : ∀ x before after, values = before ++ (f x).params ++ after →
      R x (String.ofList ((f x).charsFrom (before.length + 1)))) :
    ∀ (xs : List α) (before after : List Value),
      values = before ++ (xs.map f).flatMap params ++ after →
        List.Forall₂ R xs ((textsFrom (before.length + 1) (xs.map f)).map String.ofList)
  | [], _, _, _ => .nil
  | x :: xs, before, after, hvalues => by
      have hx := h x before ((xs.map f).flatMap params ++ after) (by rw [hvalues]; simp)
      have hxs := forall₂_textsFrom h xs (before ++ (f x).params) after (by rw [hvalues]; simp)
      rw [List.length_append, Nat.add_right_comm] at hxs
      exact .cons hx hxs

/-- An entry writes the placeholder of its cell, or the default. -/
theorem isEntry_entrySql (row : Row) (c : Column) {params before after : List Value}
    (hparams : params = before ++ (entrySql row c).params ++ after) :
    IsEntry params row c (String.ofList ((entrySql row c).charsFrom (before.length + 1))) := by
  unfold entrySql at hparams ⊢
  cases hcell : row.get? c.name with
  | none => exact .default hcell
  | some v =>
      rw [hcell] at hparams
      have htext : String.ofList ((cast c v).charsFrom (before.length + 1))
          = numbered (before.length + 1) ++ "::" ++ c.type := by
        apply String.ext
        simp [cast, numbered, Fragment.charsFrom, Piece.chars]
      have hbound : params[before.length]? = some v := by
        rw [hparams]
        simp [cast]
      simp only [htext]
      exact .bound hcell hbound

/-- A tuple writes an entry for each column. -/
theorem isTuple_tupleSql (columns : List Column) (row : Row) {params before after : List Value}
    (hparams : params = before ++ (tupleSql columns row).params ++ after) :
    IsTuple params columns row
      (String.ofList ((tupleSql columns row).charsFrom (before.length + 1))) := by
  have htuple : tupleSql columns row
      = .word "(" :: Fragment.listed (columns.map (entrySql row)) ++ [.word ")"] := rfl
  rw [htuple] at hparams ⊢
  have hbound : params = before ++ (columns.map (entrySql row)).flatMap Fragment.params
      ++ after := by
    rw [hparams]
    simp [Fragment.params_append, Fragment.listed, Fragment.params_separated]
  have hentries := Fragment.forall₂_textsFrom (fun c _ _ h => isEntry_entrySql row c h)
    columns before after hbound
  refine ⟨_, hentries, String.ext ?_⟩
  simp [Fragment.listed, Fragment.charsFrom, Fragment.charsFrom_append,
    Fragment.charsFrom_separated, Piece.chars, Piece.next, Function.comp_def]

/-- The columns of an insert are those in which a row has a cell. -/
theorem insertColumns_eq (t : Table) (rows : List Row) :
    insertColumns t rows = t.columns.filter fun c => ∃ row ∈ rows, row.has c.name := by
  unfold insertColumns
  simp only [List.any_eq]

/-- The text and the values of an insert of cells. -/
theorem toQuery_insert_of_columns (t : Table) {rows : List Row} {columns : List Column}
    (hcolumns : insertColumns t rows = columns) (hne : columns ≠ []) :
    (Statement.insert t rows).toQuery
      = ⟨insertText t (columns.map fun c => quoted c.name)
          ((Fragment.textsFrom 1 (rows.map (tupleSql columns))).map String.ofList),
        (rows.map (tupleSql columns)).flatMap Fragment.params⟩ := by
  have htuples := run_mapM rows (fun row _ => renderTuple_writes columns row) #[]
  have hquery : (Statement.insert t rows).toQuery
      = ⟨insertText t (columns.map fun c => quoted c.name)
          ((rows.mapM (renderTuple columns)).run #[]).1,
        ((rows.mapM (renderTuple columns)).run #[]).2.toList⟩ := by
    show (renderInsert t rows).query = _
    unfold renderInsert
    rw [hcolumns, if_neg fun h => hne (List.isEmpty_iff.1 h)]
    rfl
  rw [hquery, htuples]
  simp

/-- The text of an insert of defaults, which has no values. -/
theorem toQuery_insert_of_no_columns (t : Table) {rows : List Row}
    (hcolumns : insertColumns t rows = []) :
    (Statement.insert t rows).toQuery
      = ⟨insertText t [quoted t.primaryKey] (List.replicate (max 1 rows.length) "(DEFAULT)"),
        []⟩ := by
  have hnames : ", ".intercalate [quoted t.primaryKey] = quoted t.primaryKey :=
    String.intercalate_singleton
  show (renderInsert t rows).query = _
  unfold renderInsert insertText
  rw [hcolumns, hnames]
  rfl

/-- An insert of rows writes a tuple for each. -/
theorem writesRows_insert (t : Table) {rows : List Row} (hrows : rows ≠ []) :
    WritesRows t rows (Statement.insert t rows).toQuery := by
  by_cases hempty : insertColumns t rows = []
  · have hcount : max 1 rows.length = rows.length :=
      Nat.max_eq_right (List.length_pos_iff.2 hrows)
    have hnone : ∀ c ∈ t.columns, ∀ row ∈ rows, row.has c.name = false := by
      intro c hc row hrow
      have hno := List.filter_eq_nil_iff.1 hempty c hc
      rw [List.any_eq_true] at hno
      exact Bool.eq_false_iff.2 fun hhas => hno ⟨row, hrow, hhas⟩
    rw [toQuery_insert_of_no_columns t hempty, hcount, ← List.map_const']
    exact .defaults hnone
  · rw [toQuery_insert_of_columns t rfl hempty]
    refine .cells (insertColumns_eq t rows) hempty ?_
    exact Fragment.forall₂_textsFrom (fun row _ _ h => isTuple_tupleSql _ row h) rows [] []
      (by simp)

-- ============================================================= the reader

/-- What stands behind a text that the input begins with. -/
def after? (text : String) (input : List Char) : Option (List Char) :=
  input.dropPrefix? text.toList

/-- The input up to the first parenthesis that closes outside quotes, and
what stands behind it. -/
def splitClosing (inside : Bool) : List Char → List Char × List Char
  | [] => ([], [])
  | c :: cs =>
      if c = ')' ∧ inside = false then ([], cs)
      else (splitClosing (if c = '"' then !inside else inside) cs).map (c :: ·) id

/-- The value with a number; the first one has the number one. -/
def valueAt? (params : List Value) : Nat → Option Value
  | 0 => none
  | n + 1 => params[n]?

/-- Reads the cell in a column: none where `DEFAULT` stands, and otherwise
the value with the number behind the dollar sign. -/
def cell? (params : List Value) (c : Column) (input : List Char) :
    Option (Option Value × List Char) :=
  match after? "DEFAULT" input with
  | some rest => some (none, rest)
  | none => do
      let rest ← after? "$" input
      let n ← Decimal.nat? (rest.takeWhile Char.isDigit)
      let v ← valueAt? params n
      let rest ← after? ("::" ++ c.type) (rest.dropWhile Char.isDigit)
      return (some v, rest)

/-- Reads the cells in columns, each under the name of its column. -/
def cells? (params : List Value) : List Column → List Char →
    Option (List (String × Value) × List Char)
  | [], input => some ([], input)
  | c :: cs, input => do
      let (cell, rest) ← cell? params c input
      let (cells, rest) ← cells? params cs ((after? ", " rest).getD rest)
      return ((cell.map fun v => (c.name, v)).toList ++ cells, rest)

/-- Reads the row of a tuple with an entry for each column. -/
def tuple? (params : List Value) (columns : List Column) (input : List Char) :
    Option (Row × List Char) := do
  let rest ← after? "(" input
  let (cells, rest) ← cells? params columns rest
  let rest ← after? ")" rest
  return (.ofFields cells, rest)

/-- Reads the row of a tuple. One that is a single default has no cells,
whatever its column is. -/
def row? (params : List Value) (columns : List Column) (input : List Char) :
    Option (Row × List Char) :=
  match after? "(DEFAULT)" input with
  | some rest => some (.empty, rest)
  | none => tuple? params columns input

/-- Reads the rows of tuples, up to a given number, as long as a comma
tells that another one follows. -/
def rows? (params : List Value) (columns : List Column) : Nat → List Char → Option (List Row)
  | 0, _ => none
  | n + 1, input => do
      let (row, rest) ← row? params columns input
      match after? ", " rest with
      | some rest => (rows? params columns n rest).map (row :: ·)
      | none => return [row]

/-- Reads the rows of an insert. Entries are for the columns whose names
are listed, and there are no more tuples than characters. -/
def insertedRows? (t : Table) (q : Query) : Option (List Row) := do
  let rest ← after? ("INSERT INTO " ++ tableText t ++ " (") q.sql.toList
  let (names, rest) := splitClosing false rest
  let rest ← after? " VALUES " rest
  let columns := t.columns.filter fun c => (quotedFrom none names).contains c.name
  rows? q.params columns rest.length rest

-- ============================================================== the names

/-- Behind a text stands what was put there. -/
@[simp] theorem after?_append (text : String) (rest : List Char) :
    after? text (text.toList ++ rest) = some rest :=
  List.dropPrefix?_append_of_beq rest (beq_self_eq_true _)

/-- No parenthesis closes in plain text. -/
theorem splitClosing_of_plain {text : List Char} (hquote : '"' ∉ text) (hclose : ')' ∉ text)
    (rest : List Char) :
    splitClosing false (text ++ rest) = (splitClosing false rest).map (text ++ ·) id := by
  induction text with
  | nil => rfl
  | cons c text ih =>
      have hc : c ≠ '"' := fun h => hquote (h ▸ List.mem_cons_self)
      have hc' : c ≠ ')' := fun h => hclose (h ▸ List.mem_cons_self)
      rw [List.cons_append, splitClosing, if_neg fun h => hc' h.1, if_neg hc,
        ih (fun h => hquote (List.mem_cons_of_mem _ h))
          fun h => hclose (List.mem_cons_of_mem _ h)]
      rfl

/-- Inside a name no parenthesis is one, and no quote ends it but the last
one. -/
theorem splitClosing_inside (s rest : List Char) :
    splitClosing true (s.flatMap (fun c => if c = '"' then ['"', '"'] else [c]) ++ '"' :: rest)
      = (splitClosing false rest).map
          (s.flatMap (fun c => if c = '"' then ['"', '"'] else [c]) ++ '"' :: ·) id := by
  induction s with
  | nil => simp [splitClosing]
  | cons c s ih =>
      by_cases hc : c = '"'
      · simp [hc, splitClosing, ih, Prod.map]
      · simp [hc, splitClosing, ih, Prod.map]

/-- No parenthesis closes in a delimited name, whatever is in it. -/
theorem splitClosing_delimited (name : String) (rest : List Char) :
    splitClosing false (delimited name ++ rest)
      = (splitClosing false rest).map (delimited name ++ ·) id := by
  have hinside := splitClosing_inside name.toList rest
  simp only [delimited, List.cons_append, List.append_assoc, List.nil_append]
  rw [splitClosing, if_neg (by decide), if_pos rfl, Bool.not_false, hinside]
  rfl

/-- A quoted name is written as a delimited one. -/
@[simp] theorem toList_quoted (name : String) : (quoted name).toList = delimited name :=
  String.toList_ofList

/-- Texts between commas, the first of them taken off. -/
theorem toList_intercalate_cons (text next : String) (texts : List String) :
    (", ".intercalate (text :: next :: texts)).toList
      = text.toList ++ (", ".toList ++ (", ".intercalate (next :: texts)).toList) := by
  simp [String.intercalate_cons_cons]

/-- Texts with commas between them begin with the first. -/
theorem toList_intercalate_head (text : String) :
    ∀ texts : List String, ∃ more, (", ".intercalate (text :: texts)).toList = text.toList ++ more
  | [] => ⟨[], by simp⟩
  | next :: texts => ⟨_, toList_intercalate_cons text next texts⟩

/-- Listed names are read back. -/
theorem quotedFrom_names : ∀ names : List String,
    quotedFrom none (", ".intercalate (names.map quoted)).toList = names
  | [] => rfl
  | [name] => by
      have hname : quotedFrom none (delimited name ++ []) = name :: quotedFrom none [] :=
        quotedFrom_delimited name (by simp)
      rw [List.append_nil] at hname
      rw [List.map_singleton, String.intercalate_singleton, toList_quoted, hname]
      rfl
  | name :: next :: names => by
      have hnames := quotedFrom_names (next :: names)
      simp only [List.map_cons] at hnames ⊢
      rw [toList_intercalate_cons, toList_quoted, quotedFrom_delimited name (by simp),
        quotedFrom_of_plain (by decide), hnames]

/-- The names end at the parenthesis behind them. -/
theorem splitClosing_names (rest : List Char) : ∀ names : List String,
    splitClosing false ((", ".intercalate (names.map quoted)).toList ++ ')' :: rest)
      = ((", ".intercalate (names.map quoted)).toList, rest)
  | [] => rfl
  | [name] => by
      rw [List.map_singleton, String.intercalate_singleton, toList_quoted, splitClosing_delimited]
      simp [splitClosing]
  | name :: next :: names => by
      have hnames := splitClosing_names rest (next :: names)
      simp only [List.map_cons] at hnames ⊢
      rw [toList_intercalate_cons, toList_quoted, List.append_assoc, splitClosing_delimited,
        List.append_assoc, splitClosing_of_plain (by decide) (by decide), hnames]
      rfl

-- ============================================================= the entries

/-- A number ends at the cast behind it. -/
theorem digits_before_cast (n : Nat) (rest : List Char) :
    (Decimal.digits n ++ ':' :: rest).takeWhile Char.isDigit = Decimal.digits n
      ∧ (Decimal.digits n ++ ':' :: rest).dropWhile Char.isDigit = ':' :: rest := by
  have hdigits : ∀ c ∈ Decimal.digits n, c.isDigit = true := fun c =>
    Decimal.isDigit_of_mem_digits
  constructor
  · rw [List.takeWhile_append_of_pos hdigits]
    simp
  · rw [List.dropWhile_append_of_pos hdigits]
    rfl

/-- An entry is read as the cell it stands for, whatever follows. -/
theorem cell?_entry {params : List Value} {row : Row} {c : Column} {entry : String}
    (h : IsEntry params row c entry) (rest : List Char) :
    cell? params c (entry.toList ++ rest) = some (row.get? c.name, rest) := by
  cases h with
  | default hnone => rw [cell?, after?_append, hnone]
  | @bound v n hcell hvalue =>
      have htext : (numbered (n + 1) ++ "::" ++ c.type).toList ++ rest
          = "$".toList ++ (Decimal.digits (n + 1) ++ ':' :: (':' :: c.type.toList ++ rest)) := by
        simp [numbered]
      have hcast : ':' :: (':' :: c.type.toList ++ rest) = ("::" ++ c.type).toList ++ rest := by
        simp
      have hbound : after? "DEFAULT" ("$".toList ++
          (Decimal.digits (n + 1) ++ ':' :: (':' :: c.type.toList ++ rest))) = none := rfl
      obtain ⟨hnumber, hbehind⟩ := digits_before_cast (n + 1) (':' :: c.type.toList ++ rest)
      rw [htext, cell?, hbound]
      simp only [after?_append, Option.bind_eq_bind, Option.bind_some, hnumber, hbehind,
        Decimal.nat?_digits, valueAt?, hvalue]
      rw [hcast, after?_append, hcell]
      rfl

/-- Entries between commas are read as the cells of the row, up to what
goes on with no comma. -/
theorem cells?_entries {params : List Value} {row : Row} {columns : List Column}
    {entries : List String} (h : List.Forall₂ (IsEntry params row) columns entries)
    (rest : List Char) (hrest : after? ", " rest = none) :
    cells? params columns ((", ".intercalate entries).toList ++ rest)
      = some (row.cellsIn columns, rest) := by
  induction h with
  | nil => rfl
  | @cons c entry columns entries hentry hentries ih =>
      cases hentries with
      | nil =>
          rw [String.intercalate_singleton, cells?, cell?_entry hentry]
          simp [cells?, hrest, Row.cellsIn_cons, Row.cellsIn_nil]
      | cons _ _ =>
          rw [toList_intercalate_cons, List.append_assoc, cells?, cell?_entry hentry]
          simp only [List.append_assoc, Option.bind_eq_bind, Option.bind_some, after?_append,
            Option.getD_some, ih, Row.cellsIn_cons]
          rfl

/-- After a text it remains to look for the rest of a longer one. -/
theorem after?_join (first second : String) (rest : List Char) :
    after? (first ++ second) (first.toList ++ rest) = after? second rest := by
  unfold after?
  rw [String.toList_append]
  induction first.toList with
  | nil => rfl
  | cons c cs ih => simpa [List.dropPrefix?] using ih

/-- Where a single default stands it is the whole tuple, and the row has no
cell. -/
theorem single_default {params : List Value} {row : Row} {columns : List Column}
    {entries : List String} (h : List.Forall₂ (IsEntry params row) columns entries)
    {rest behind : List Char}
    (hafter : after? "DEFAULT)" ((", ".intercalate entries).toList ++ ')' :: rest) = some behind) :
    row.cellsIn columns = [] ∧ behind = rest := by
  have hdefault : ("DEFAULT)" : String) = "DEFAULT" ++ ")" := rfl
  cases h with
  | nil => cases hafter
  | @cons c entry columns entries hentry hentries =>
      cases hentry with
      | @bound v n hcell hvalue =>
          obtain ⟨more, hmore⟩ :=
            toList_intercalate_head (numbered (n + 1) ++ "::" ++ c.type) entries
          have hdollar : (numbered (n + 1) ++ "::" ++ c.type).toList
              = '$' :: (Decimal.digits (n + 1) ++ ("::" ++ c.type).toList) := by
            simp [numbered]
          rw [hmore, hdollar] at hafter
          cases hafter
      | default hnone =>
          rw [hdefault] at hafter
          cases hentries with
          | nil =>
              rw [String.intercalate_singleton, after?_join] at hafter
              refine ⟨?_, (Option.some.inj ((after?_append ")" rest).symm.trans hafter)).symm⟩
              rw [Row.cellsIn_cons, hnone]
              rfl
          | cons _ _ =>
              rw [toList_intercalate_cons, List.append_assoc, after?_join] at hafter
              cases hafter

/-- A tuple is read as the row with the cells. -/
theorem row?_tuple {params : List Value} {row : Row} {columns : List Column} {text : String}
    (h : IsTuple params columns row text) (rest : List Char) :
    row? params columns (text.toList ++ rest) = some (.ofFields (row.cellsIn columns), rest) := by
  obtain ⟨entries, hentries, rfl⟩ := h
  have htext : ("(" ++ ", ".intercalate entries ++ ")").toList ++ rest
      = "(".toList ++ ((", ".intercalate entries).toList ++ ')' :: rest) := by
    simp
  have hsingle : ("(DEFAULT)" : String) = "(" ++ "DEFAULT)" := rfl
  have hclose : after? ")" (')' :: rest) = some rest := after?_append ")" rest
  rw [htext, row?, hsingle, after?_join]
  cases hafter : after? "DEFAULT)" ((", ".intercalate entries).toList ++ ')' :: rest) with
  | some behind =>
      obtain ⟨hnone, rfl⟩ := single_default hentries hafter
      rw [hnone]
      rfl
  | none =>
      simp only [tuple?, after?_append, Option.bind_eq_bind, Option.bind_some,
        cells?_entries hentries (')' :: rest) rfl, hclose]
      rfl

-- ================================================================ the rows

/-- Commas are two characters, so texts between them are at most one more
than there are characters. -/
theorem length_le_intercalate : ∀ texts : List String,
    texts.length ≤ (", ".intercalate texts).toList.length + 1
  | [] => Nat.zero_le _
  | [text] => Nat.le_add_left _ _
  | text :: next :: texts => by
      have hrest := length_le_intercalate (next :: texts)
      have hcomma : ", ".toList.length = 2 := rfl
      rw [toList_intercalate_cons, List.length_append, List.length_append, hcomma,
        List.length_cons]
      omega

/-- Tuples between commas are read as the rows that each of them is read
as, up to what goes on with no comma. -/
theorem rows?_tuples {params : List Value} {columns : List Column} {read : Row → Row}
    {rest : List Char} (hrest : after? ", " rest = none) {rows : List Row} {tuples : List String}
    (h : List.Forall₂ (fun row text => ∀ rest,
      row? params columns (text.toList ++ rest) = some (read row, rest)) rows tuples) :
    rows ≠ [] → ∀ n, tuples.length ≤ n →
      rows? params columns n ((", ".intercalate tuples).toList ++ rest) = some (rows.map read) := by
  induction h with
  | nil => exact fun hne => absurd rfl hne
  | @cons row text rows tuples hrow hrows ih =>
      intro _ n hn
      obtain ⟨n, rfl⟩ := Nat.exists_eq_succ_of_ne_zero (Nat.ne_zero_of_lt hn)
      cases hrows with
      | nil =>
          rw [String.intercalate_singleton, rows?, hrow]
          simp [hrest]
      | cons _ _ =>
          have hmore := ih (List.cons_ne_nil _ _) n (Nat.le_of_succ_le_succ hn)
          rw [toList_intercalate_cons, List.append_assoc, rows?, hrow]
          simp only [List.append_assoc, Option.bind_eq_bind, Option.bind_some, after?_append, hmore]
          rfl

/-- The reader comes to the tuples with the columns whose names are
listed, and with enough characters to go on for. -/
theorem insertedRows?_insertText (t : Table) (names tuples : List String) (params : List Value) :
    ∃ n ≥ tuples.length,
      insertedRows? t ⟨insertText t (names.map quoted) tuples, params⟩
        = rows? params (t.columns.filter fun c => names.contains c.name) n
          ((", ".intercalate tuples).toList ++ (" RETURNING " ++ columnsText t).toList) := by
  have htext : (insertText t (names.map quoted) tuples).toList
      = ("INSERT INTO " ++ tableText t ++ " (").toList
        ++ ((", ".intercalate (names.map quoted)).toList ++ ')' :: (" VALUES ".toList
          ++ ((", ".intercalate tuples).toList ++ (" RETURNING " ++ columnsText t).toList))) := by
    have hvalues : ") VALUES ".toList = ')' :: " VALUES ".toList := rfl
    unfold insertText
    simp only [String.toList_append]
    rw [hvalues]
    simp only [List.append_assoc, List.cons_append]
  refine ⟨((", ".intercalate tuples).toList ++ (" RETURNING " ++ columnsText t).toList).length,
    ?_, ?_⟩
  · have hcount := length_le_intercalate tuples
    have hreturning : " RETURNING ".toList.length = 11 := rfl
    rw [List.length_append, String.toList_append, List.length_append, hreturning]
    omega
  · rw [insertedRows?, htext, after?_append]
    simp only [Option.bind_eq_bind, Option.bind_some, splitClosing_names, after?_append,
      quotedFrom_names]

/-- Listed columns are told by their names, also where a table has two of
one name. -/
theorem filter_listed (columns : List Column) (present : String → Bool) :
    (columns.filter fun c =>
        ((columns.filter fun c => present c.name).map (·.name)).contains c.name)
      = columns.filter fun c => present c.name := by
  refine List.filter_congr fun c hc => ?_
  rw [Bool.eq_iff_iff, List.contains_iff_mem, List.mem_map]
  constructor
  · intro h
    obtain ⟨d, hd, hname⟩ := h
    exact hname ▸ (List.mem_filter.1 hd).2
  · intro hpresent
    exact ⟨c, List.mem_filter.2 ⟨hc, hpresent⟩, rfl⟩

/-- What a row has in the columns that some row has cells in is all that
it has. -/
theorem cellsIn_present (t : Table) {rows : List Row} {row : Row} (hrow : row ∈ rows) :
    row.cellsIn (t.columns.filter fun c => ∃ row ∈ rows, row.has c.name)
      = row.cellsIn t.columns := by
  unfold Row.cellsIn
  rw [List.filterMap_filter]
  refine List.filterMap_congr fun c _ => ?_
  split
  case isTrue => rfl
  case isFalse hnone =>
    cases hcell : row.get? c.name with
    | none => rfl
    | some v =>
        have hhas : row.has c.name = true := by rw [Row.has, hcell, Option.isSome_some]
        exact absurd (decide_eq_true ⟨row, hrow, hhas⟩) hnone

/-- A query that inserts rows has them, as far as the table knows them. -/
theorem WritesRows.insertedRows?_eq {t : Table} {rows : List Row} {q : Query}
    (h : WritesRows t rows q) (hrows : rows ≠ []) :
    insertedRows? t q = some (rows.map t.restrict) := by
  have hend : after? ", " (" RETURNING " ++ columnsText t).toList = none := by
    rw [String.toList_append]
    rfl
  have hcells : ∀ columns : List Column,
      (∀ row ∈ rows, row.cellsIn columns = row.cellsIn t.columns) →
        rows.map (fun row => Row.ofFields (row.cellsIn columns)) = rows.map t.restrict := by
    intro columns hcolumns
    refine List.map_congr_left fun row hrow => ?_
    rw [hcolumns row hrow, t.ofFields_cellsIn]
  cases h with
  | @cells columns tuples params hcolumns hne htuples =>
      obtain ⟨n, hn, hread⟩ := insertedRows?_insertText t (columns.map (·.name)) tuples params
      have hlisted : (t.columns.filter fun c => (columns.map (·.name)).contains c.name)
          = columns := by
        rw [hcolumns]
        exact filter_listed t.columns fun name => ∃ row ∈ rows, row.has name
      have hrow : List.Forall₂ (fun row text => ∀ rest, row? params columns (text.toList ++ rest)
          = some (.ofFields (row.cellsIn columns), rest)) rows tuples :=
        htuples.imp fun _ _ htuple rest => row?_tuple htuple rest
      rw [List.map_map] at hread
      refine hread.trans ?_
      rw [hlisted, rows?_tuples hend hrow hrows n hn]
      refine congrArg some (hcells columns fun row hrow => ?_)
      rw [hcolumns, cellsIn_present t hrow]
  | defaults hnone =>
      obtain ⟨n, hn, hread⟩ :=
        insertedRows?_insertText t [t.primaryKey] (rows.map fun _ => "(DEFAULT)") []
      have hrow : List.Forall₂ (fun row text => ∀ rest,
          row? [] (t.columns.filter fun c => [t.primaryKey].contains c.name) (text.toList ++ rest)
            = some (.ofFields (Row.cellsIn row []), rest))
          rows (rows.map fun _ => "(DEFAULT)") := by
        rw [List.forall₂_map_right_iff, List.forall₂_same]
        intro row _ rest
        rw [row?, after?_append]
        rfl
      refine hread.trans ?_
      rw [rows?_tuples hend hrow hrows n hn]
      refine congrArg some (hcells [] fun row hrow => ?_)
      exact (Row.cellsIn_eq_nil fun c hc => hnone c hc row hrow).symm

end Sql

namespace Statement

/-- The text of an insert has a tuple for every row, of the cells that the
row has in the columns of all the rows and of defaults for those it has
not. So the rows can be read back from the text and the values. -/
theorem inserted_rows_read_back (t : Table) {rows : List Row} (hrows : rows ≠ []) :
    WritesRows t rows (Statement.insert t rows).toQuery
      ∧ insertedRows? t (Statement.insert t rows).toQuery = some (rows.map t.restrict) := by
  have hwrites := writesRows_insert t hrows
  exact ⟨hwrites, hwrites.insertedRows?_eq hrows⟩

/-- Three rows without a column in common: one has a cell in no column as
well, one a null where the type of the column looks like the rest of a
tuple, and one has nothing. -/
theorem inserted_rows_read_back_at_hostile_type :
    let t : Table := ⟨none, "items", "id", [⟨"id", "int4", true⟩, ⟨"n", "numeric", false⟩,
      ⟨"a\"), (", "text, DEFAULT), (DEFAULT", false⟩]⟩
    let rows := [Row.ofFields [("id", .int 7), ("x", .int 1)],
      Row.ofFields [("a\"), (", .null)], .empty]
    let q := (Statement.insert t rows).toQuery
    rows ≠ [] ∧ WritesRows t rows q
      ∧ q.sql = "INSERT INTO \"items\" (\"id\", \"a\"\"), (\") VALUES ($1::int4, DEFAULT), "
        ++ "(DEFAULT, $2::text, DEFAULT), (DEFAULT), (DEFAULT, DEFAULT) RETURNING \"id\", "
        ++ "\"n\"::text AS \"n\", \"a\"\"), (\""
      ∧ q.params = [.int 7, .null]
      ∧ insertedRows? t q = some [Row.empty.set "id" (.int 7),
          Row.empty.set "a\"), (" .null, .empty] := by
  intro t rows q
  have hrows : rows ≠ [] := List.cons_ne_nil _ _
  obtain ⟨hwrites, hread⟩ := inserted_rows_read_back t hrows
  refine ⟨hrows, hwrites, by decide +kernel, rfl, hread.trans ?_⟩
  rfl

end Statement

end TableApi
