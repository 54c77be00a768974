/-
The quoted names in SQL text.

A text is read here by nothing but its quotes: a quote opens a name, and
the next one that is not doubled closes it (`quotedNames`). What is read
from the text of a statement are the names among its pieces, as far as
quotes stand nowhere else.

# What has to be shown of the pieces

A quote could come from a word or a type as well as from a name, and two
names without anything between them would be read as one.
`Fragment.Quotes` says of the pieces that neither is so, words apart from
types, and which names there are; it is built up construct by construct.
The types of columns are written as the table gives them, whatever that
is: only where they have no quotes is the text read as its pieces are.
-/
import TableApi.Proofs.Sql.Placeholder

namespace TableApi

open Json Sql

namespace Sql

-- ======================================================== reading quotes

/-- Reads the names in quotes, within one if its text so far is given.
Two quotes in a name are one. A name that is not closed goes on to the
end. -/
def quotedFrom : Option (List Char) → List Char → List String
  | none, [] => []
  | some name, [] => [String.ofList name]
  | none, c :: cs => if c = '"' then quotedFrom (some []) cs else quotedFrom none cs
  | some name, '"' :: '"' :: cs => quotedFrom (some (name ++ ['"'])) cs
  | some name, '"' :: cs => String.ofList name :: quotedFrom none cs
  | some name, c :: cs => quotedFrom (some (name ++ [c])) cs

/-- The names that stand in quotes in a text, from left to right. -/
def quotedNames (text : String) : List String := quotedFrom none text.toList

/-- A text without quotes has no quoted name. -/
theorem quotedFrom_of_plain {text : List Char} (h : '"' ∉ text) (rest : List Char) :
    quotedFrom none (text ++ rest) = quotedFrom none rest := by
  induction text with
  | nil => rfl
  | cons c text ih =>
      have hc : c ≠ '"' := fun heq => h (heq ▸ List.mem_cons_self)
      rw [List.cons_append, quotedFrom, if_neg hc]
      exact ih fun hmem => h (List.mem_cons_of_mem _ hmem)

/-- A name ends at the quote that no other one follows. -/
theorem quotedFrom_closing (name : List Char) {rest : List Char} (hrest : rest.head? ≠ some '"') :
    quotedFrom (some name) ('"' :: rest) = String.ofList name :: quotedFrom none rest := by
  rw [quotedFrom]
  rintro cs rfl
  exact hrest rfl

/-- Inside quotes a name goes on to the first quote that stands alone. -/
theorem quotedFrom_inside {rest : List Char} (hrest : rest.head? ≠ some '"') :
    ∀ s name : List Char,
      quotedFrom (some name)
          (s.flatMap (fun c => if c = '"' then ['"', '"'] else [c]) ++ '"' :: rest)
        = String.ofList (name ++ s) :: quotedFrom none rest
  | [], name => by
      rw [List.flatMap_nil, List.nil_append, quotedFrom_closing name hrest, List.append_nil]
  | c :: s, name => by
      by_cases hc : c = '"'
      · have hs := quotedFrom_inside hrest s (name ++ ['"'])
        simp only [hc, List.flatMap_cons, if_true, List.cons_append, List.nil_append]
        rw [quotedFrom, hs, List.append_assoc]
        rfl
      · have hs := quotedFrom_inside hrest s (name ++ [c])
        simp only [hc, List.flatMap_cons, if_false, List.cons_append, List.nil_append]
        rw [quotedFrom, hs, List.append_assoc]
        · rfl
        · exact fun cs h _ => hc h
        · exact fun h => hc h

/-- A delimited name is read back, unless a quote follows. -/
theorem quotedFrom_delimited (name : String) {rest : List Char} (hrest : rest.head? ≠ some '"') :
    quotedFrom none (delimited name ++ rest) = name :: quotedFrom none rest := by
  simp only [delimited, List.cons_append, List.append_assoc, List.nil_append]
  rw [quotedFrom, if_pos rfl, quotedFrom_inside hrest, List.nil_append, String.ofList_toList]

-- ============================================================ fragments

namespace Piece

/-- The piece may stand behind a name. -/
def separates : Piece → Bool
  | word text => !text.isEmpty
  | number _ | param _ => true
  | name _ | type _ => false

/-- The piece has no quotes but those of a name with the property `N`, or
those of a type with the property `T`. -/
def Quotes (N T : String → Prop) : Piece → Prop
  | word text => '"' ∉ text.toList
  | name text => N text
  | type text => T text
  | number _ | param _ => True

end Piece

namespace Fragment

/-- The fragment may stand behind a name. -/
def Separates (f : Fragment) : Prop := ∀ p ∈ f.head?, p.separates = true

/-- The quotes of the fragment are those of names with the property `N`,
no two of them next to one another, and those in types with the property
`T`. -/
inductive Quotes (N T : String → Prop) : Fragment → Prop where
  | nil : Quotes N T []
  | name {f : Fragment} {text : String} (hname : N text) (hseparates : f.Separates) :
      Quotes N T f → Quotes N T (.name text :: f)
  | other {f : Fragment} {p : Piece} (hp : p.Quotes N T) (hname : ∀ text, p ≠ .name text) :
      Quotes N T f → Quotes N T (p :: f)

variable {N T : String → Prop} {f g : Fragment}

theorem separates_nil : Separates [] := by intro p hp; cases hp

/-- A fragment may stand behind a name if its first piece may. -/
theorem separates_cons {p : Piece} (hp : p.separates = true) : Separates (p :: f) := by
  intro q hq
  obtain rfl := Option.some.inj hq
  exact hp

/-- What may stand behind a name may do so with more behind it. -/
theorem Separates.append (hf : f.Separates) (hg : g.Separates) : (f ++ g).Separates := by
  cases f with
  | nil => exact hg
  | cons p f => exact hf

/-- A word without quotes quotes no name. -/
theorem Quotes.word (h : f.Quotes N T) (text : String) (htext : '"' ∉ text.toList) :
    Quotes N T (.word text :: f) :=
  .other htext (fun _ heq => by cases heq) h

theorem Quotes.number (h : f.Quotes N T) (n : Nat) : Quotes N T (.number n :: f) :=
  .other trivial (fun _ heq => by cases heq) h

theorem Quotes.param (h : f.Quotes N T) (v : Value) : Quotes N T (.param v :: f) :=
  .other trivial (fun _ heq => by cases heq) h

/-- The names of two fragments are those of each, if the second may stand
behind a name. -/
theorem Quotes.append (hf : f.Quotes N T) (hg : g.Quotes N T) (hseparates : g.Separates) :
    (f ++ g).Quotes N T := by
  induction hf with
  | nil => exact hg
  | name hname hf _ ih => exact .name hname (hf.append hseparates) ih
  | other hp hname _ ih => exact .other hp hname ih

/-- What stands before a closing parenthesis. -/
theorem Quotes.closed (hf : f.Quotes N T) : Quotes N T (f ++ [Piece.word ")"]) :=
  hf.append (Quotes.nil.word ")" (by decide)) (separates_cons (by decide))

/-- Members with a separator between them quote what they quote alone. -/
theorem Quotes.separated {α : Type} {member : α → Fragment} {separator : String}
    (hseparator : '"' ∉ separator.toList) (hseparates : (Piece.word separator).separates = true) :
    ∀ xs : List α, (∀ x ∈ xs, (member x).Quotes N T) →
      (separated (.word separator) (xs.map member)).Quotes N T
  | [], _ => .nil
  | [x], h => h x List.mem_cons_self
  | x :: y :: xs, h => by
      have hrest := Quotes.separated hseparator hseparates (y :: xs)
        fun z hz => h z (List.mem_cons_of_mem _ hz)
      rw [List.map_cons, List.map_cons, separated_cons_cons]
      exact (h x List.mem_cons_self).append (hrest.word separator hseparator)
        (separates_cons hseparates)

/-- The members of a list quote what they quote alone. -/
theorem Quotes.listed {α : Type} {member : α → Fragment} (xs : List α)
    (h : ∀ x ∈ xs, (member x).Quotes N T) : (Fragment.listed (xs.map member)).Quotes N T :=
  Quotes.separated (by decide) (by decide) xs h

/-- Every piece of a fragment has only such quotes as the fragment has. -/
theorem Quotes.forall_mem (h : f.Quotes N T) : ∀ p ∈ f, p.Quotes N T := by
  induction h with
  | nil => exact List.forall_mem_nil _
  | name hname _ _ ih => exact List.forall_mem_cons.2 ⟨hname, ih⟩
  | other hp _ _ ih => exact List.forall_mem_cons.2 ⟨hp, ih⟩

/-- What may stand behind a name does not begin with a quote. -/
theorem Quotes.head_ne (h : f.Quotes N T) (hseparates : f.Separates) (n : Nat) :
    (f.charsFrom n).head? ≠ some '"' := by
  cases h with
  | nil => exact fun h => by cases h
  | name => exact absurd (hseparates _ rfl) Bool.false_ne_true
  | @other f p hp hname =>
      have hp' := hseparates p rfl
      intro hhead
      cases p with
      | word text =>
          have hne : text.toList ≠ [] := fun hnil => by
            rw [Piece.separates, String.toList_eq_nil_iff.1 hnil] at hp'
            exact absurd hp' (by decide)
          obtain ⟨c, cs, htext⟩ := List.exists_cons_of_ne_nil hne
          simp only [charsFrom, Piece.chars, htext, List.cons_append, List.head?_cons,
            Option.some.injEq] at hhead
          exact hp (htext ▸ hhead ▸ List.mem_cons_self)
      | number m =>
          obtain ⟨c, cs, hdigits⟩ := List.exists_cons_of_ne_nil (Decimal.digits_ne_nil m)
          simp only [charsFrom, Piece.chars, hdigits, List.cons_append, List.head?_cons,
            Option.some.injEq] at hhead
          exact (isPlain_digits m).1 (hdigits ▸ hhead ▸ List.mem_cons_self)
      | param v => cases hhead
      | name text => exact hname text rfl
      | type text => cases hp'

/-- Where types have no quotes, the names that are read are those of the
pieces. -/
theorem Quotes.quotedFrom (h : f.Quotes N fun type => '"' ∉ type.toList) :
    ∀ n, ∀ name ∈ quotedFrom none (f.charsFrom n), N name := by
  induction h with
  | nil => exact fun n name hname => by cases hname
  | @name f text hname hseparates hf ih =>
      intro n
      have hread : Sql.quotedFrom none (charsFrom n (.name text :: f))
          = text :: Sql.quotedFrom none (f.charsFrom n) :=
        quotedFrom_delimited text (hf.head_ne hseparates n)
      rw [hread]
      exact List.forall_mem_cons.2 ⟨hname, ih n⟩
  | @other f p hp hname _ ih =>
      intro n
      have hplain : '"' ∉ p.chars n := by
        cases p with
        | word text => exact hp
        | type text => exact hp
        | name text => exact absurd rfl (hname text)
        | number m => exact (isPlain_digits m).1
        | param v => exact fun h => (List.mem_cons.1 h).elim (by decide) (isPlain_digits n).1
      have hread : Sql.quotedFrom none (charsFrom n (p :: f))
          = Sql.quotedFrom none (f.charsFrom (p.next n)) :=
        quotedFrom_of_plain hplain _
      rw [hread]
      exact ih (p.next n)

end Fragment

end Sql

-- ============================================================= conditions

namespace Condition

open Fragment

mutual

/-- The columns that a condition names, leaf by leaf. -/
def columns : Condition → List String
  | always | never => []
  | compare column _ _ | like column _ _ _ | isNull column _ | inList column _ _
  | between column _ _ _ => [column]
  | and conditions | or conditions => columnsAll conditions
  | not condition => columns condition

def columnsAll : List Condition → List String
  | [] => []
  | c :: cs => columns c ++ columnsAll cs

end

variable {N T : String → Prop} {t : Table}

/-- A parameter quotes no name. -/
theorem paramSql_quotes (ht : t.HasTypes T) (column : String) (v : Value) :
    (paramSql t column v).Quotes N T := by
  unfold paramSql
  cases hc : t.column? column with
  | none => exact Quotes.nil.param v
  | some c =>
      have htype : Quotes N T [.type c.type] :=
        .other (ht c (List.mem_of_find?_eq_some hc)) (fun _ heq => by cases heq) .nil
      exact (htype.word "::" (by decide)).param v

/-- A constant quotes no name. -/
theorem constantSql_quotes (b : Bool) : (constantSql b).Quotes N T := by
  cases b <;> exact Quotes.nil.word _ (by decide)

/-- A negation quotes no name of its own. -/
theorem notSql_quotes (negated : Bool) {f : Fragment} (hf : f.Quotes N T) :
    (notSql negated ++ f).Quotes N T := by
  cases negated with
  | false => exact hf
  | true => exact hf.word "NOT " (by decide)

/-- A leaf names its column, and goes on with a word. -/
theorem leaf_quotes {column text : String} (hcolumn : N column)
    (hseparates : (Piece.word text).separates = true) (htext : '"' ∉ text.toList) {f : Fragment}
    (hf : f.Quotes N T) : Quotes N T (.name column :: .word text :: f) :=
  .name hcolumn (separates_cons hseparates) (hf.word text htext)

/-- Members in parentheses name what the members name. -/
theorem joinSql_quotes {connective : String} (hconnective : '"' ∉ connective.toList)
    (hseparates : (Piece.word connective).separates = true) (empty : Bool) {cs : List Condition}
    (h : ∀ c ∈ cs, (c.sql t).Quotes N T) :
    (joinSql connective empty (sqlAll t cs)).Quotes N T := by
  have hsql : sqlAll t cs = cs.map (sql t) := by
    clear h
    induction cs with
    | nil => rfl
    | cons c cs ih => rw [sqlAll, ih, List.map_cons]
  rw [hsql]
  cases cs with
  | nil => exact constantSql_quotes empty
  | cons c cs =>
      exact ((Quotes.separated hconnective hseparates (c :: cs) h).word "(" (by decide)).closed

mutual

/-- The text of a condition names its columns. -/
theorem sql_quotes (ht : t.HasTypes T) :
    ∀ {c : Condition}, (∀ column ∈ c.columns, N column) → (c.sql t).Quotes N T
  | always, _ => constantSql_quotes true
  | never, _ => constantSql_quotes false
  | compare column op v, h => by
      have hop : '"' ∉ op.sql.toList := by cases op <;> decide
      exact leaf_quotes (h column List.mem_cons_self) (by decide) (by decide)
        (((paramSql_quotes ht column v).word " " (by decide)).word op.sql hop)
  | like column pattern ignoreCase negated, h => by
      have hlike : '"' ∉ (if ignoreCase then "ILIKE " else "LIKE ").toList := by
        cases ignoreCase <;> decide
      have hpattern : Quotes N T
          [.word (if ignoreCase then "ILIKE " else "LIKE "), .param (.string pattern)] :=
        (Quotes.nil.param _).word _ hlike
      rw [sql, List.append_assoc]
      exact leaf_quotes (h column List.mem_cons_self) (by decide) (by decide)
        (notSql_quotes negated hpattern)
  | isNull column negated, h => by
      rw [sql, List.append_assoc]
      exact leaf_quotes (h column List.mem_cons_self) (by decide) (by decide)
        (notSql_quotes negated (Quotes.nil.word "NULL" (by decide)))
  | inList column vs negated, h => by
      rw [sql]
      split
      case isTrue => exact constantSql_quotes negated
      case isFalse =>
        have hlist : (Fragment.listed (vs.map (paramSql t column))).Quotes N T :=
          .listed vs fun v _ => paramSql_quotes ht column v
        rw [List.append_assoc, List.append_assoc, List.append_assoc]
        exact leaf_quotes (h column List.mem_cons_self) (by decide) (by decide)
          (notSql_quotes negated (hlist.closed.word "IN (" (by decide)))
  | between column low high negated, h => by
      have hbounds := (paramSql_quotes (N := N) ht column low).append
        ((paramSql_quotes ht column high).word " AND " (by decide)) (separates_cons (by decide))
      rw [sql]
      simp only [List.append_assoc]
      exact leaf_quotes (h column List.mem_cons_self) (by decide) (by decide)
        (notSql_quotes negated (hbounds.word "BETWEEN " (by decide)))
  | and cs, h => joinSql_quotes (by decide) (by decide) true (sqlAll_quotes ht h)
  | or cs, h => joinSql_quotes (by decide) (by decide) false (sqlAll_quotes ht h)
  | not c, h => ((sql_quotes (c := c) ht h).word "NOT (" (by decide)).closed

/-- The members of a list quote what they quote alone. -/
theorem sqlAll_quotes (ht : t.HasTypes T) :
    ∀ {cs : List Condition}, (∀ column ∈ columnsAll cs, N column) →
      ∀ c ∈ cs, (c.sql t).Quotes N T
  | [], _, c, hc => by cases hc
  | d :: cs, h, c, hc => by
      obtain ⟨hd, hcs⟩ := List.forall_mem_append.1 h
      rcases List.mem_cons.1 hc with heq | hc
      · exact heq ▸ sql_quotes ht hd
      · exact sqlAll_quotes ht hcs c hc

end

end Condition

-- ============================================================= statements

/-- The names of a table: that of its schema, its own, and those of its
columns. -/
def Table.names (t : Table) : List String :=
  t.schema.toList ++ t.name :: t.columns.map Column.name

namespace Sql

open Fragment

variable {N T : String → Prop} {t : Table}

/-- The name of a table is quoted, with its schema if it has one. -/
theorem sqlName_quotes (hnames : ∀ name ∈ t.names, N name) : t.sqlName.Quotes N T := by
  have htable : N t.name := hnames _ (by simp [Table.names])
  have hown : Quotes N T [.name t.name] := .name htable separates_nil .nil
  unfold Table.sqlName
  cases hschema : t.schema with
  | none => exact hown
  | some schema =>
      exact .name (hnames schema (by simp [Table.names, hschema])) (separates_cons (by decide))
        (hown.word "." (by decide))

/-- The columns of a table are quoted. -/
theorem sqlColumns_quotes (hnames : ∀ name ∈ t.names, N name) : t.sqlColumns.Quotes N T := by
  refine .listed t.columns fun c hc => ?_
  have hcolumn : N c.name :=
    hnames c.name (List.mem_append_right _ (List.mem_cons_of_mem _ (List.mem_map_of_mem hc)))
  have hown : Quotes N T [.name c.name] := .name hcolumn separates_nil .nil
  split
  · exact .name hcolumn (separates_cons (by decide)) (hown.word "::text AS " (by decide))
  · exact hown

/-- The columns of an order are quoted. -/
theorem orderSql_quotes {order : List SortKey} (horder : ∀ key ∈ order, N key.column) :
    (orderSql order).Quotes N T := by
  unfold orderSql
  split
  · exact .nil
  · refine Quotes.word (.listed order fun key hkey => ?_) " ORDER BY " (by decide)
    have hdirection : (Piece.word (directionSql key.direction)).separates = true
        ∧ '"' ∉ (directionSql key.direction).toList := by
      cases key.direction <;> decide
    exact .name (horder key hkey) (separates_cons hdirection.1)
      (Quotes.nil.word _ hdirection.2)

/-- A limit or an offset quotes nothing. -/
theorem numberSql_quotes {clause : String} (hclause : '"' ∉ clause.toList) (n : Option Nat) :
    (numberSql clause n).Quotes N T := by
  cases n with
  | none => exact .nil
  | some n => exact (Quotes.nil.number n).word clause hclause

/-- A condition quotes its columns. -/
theorem whereSql_quotes (ht : t.HasTypes T) {condition : Option Condition}
    (hcolumns : ∀ c ∈ condition, ∀ column ∈ c.columns, N column) :
    (whereSql t condition).Quotes N T := by
  cases condition with
  | none => exact .nil
  | some c => exact (Condition.sql_quotes ht (hcolumns c rfl)).word " WHERE " (by decide)

/-- The clauses of a statement may all stand behind a name. -/
theorem separates_whereSql (condition : Option Condition) : (whereSql t condition).Separates := by
  cases condition with
  | none => exact separates_nil
  | some c => exact separates_cons (by decide)

theorem separates_orderSql (order : List SortKey) : (orderSql order).Separates := by
  unfold orderSql
  split
  · exact separates_nil
  · exact separates_cons (by decide)

theorem separates_numberSql {clause : String} (hclause : (Piece.word clause).separates = true)
    (n : Option Nat) : (numberSql clause n).Separates := by
  cases n with
  | none => exact separates_nil
  | some n => exact separates_cons hclause

/-- A search quotes the names of its table, of its condition and of its
order. -/
theorem selectSql_quotes (ht : t.HasTypes T) (hnames : ∀ name ∈ t.names, N name) {s : Selection}
    (hcolumns : ∀ c ∈ s.condition, ∀ column ∈ c.columns, N column)
    (horder : ∀ key ∈ s.order, N key.column) : (selectSql t s).Quotes N T := by
  have hfrom := ((sqlColumns_quotes (T := T) hnames).word "SELECT " (by decide)).append
    ((sqlName_quotes hnames).word " FROM " (by decide)) (separates_cons (by decide))
  have hwhere := hfrom.append (whereSql_quotes ht hcolumns) (separates_whereSql s.condition)
  exact ((hwhere.append (orderSql_quotes horder) (separates_orderSql s.order)).append
    (numberSql_quotes (by decide) s.offset) (separates_numberSql (by decide) s.offset)).append
    (numberSql_quotes (by decide) s.limit) (separates_numberSql (by decide) s.limit)

/-- A count quotes the names of its table and of its condition, and its own
column. -/
theorem countSql_quotes (ht : t.HasTypes T) (hnames : ∀ name ∈ t.names, N name)
    (hcount : N "count") {condition : Option Condition}
    (hcolumns : ∀ c ∈ condition, ∀ column ∈ c.columns, N column) :
    (countSql t condition).Quotes N T := by
  have hfrom : Quotes N T ([.word "SELECT COUNT(*) AS ", .name "count", .word " FROM "]
      ++ t.sqlName) :=
    Quotes.word (.name hcount (separates_cons (by decide))
      ((sqlName_quotes hnames).word " FROM " (by decide))) _ (by decide)
  exact hfrom.append (whereSql_quotes ht hcolumns) (separates_whereSql condition)

end Sql

end TableApi
