/-
The identifiers in what clients ask for.

The field of a rule is checked before the rule becomes a condition, and
becomes the column of that condition: so the columns of a compiled filter
are the fields of its rules, leaf by leaf, each of them checked
(`columns_of_compile`). What a client sorts by is looked up in the table,
and only the name that is found there goes on. So behind a text that a
client has chosen there are plain identifiers, and the statements quote
them, the names of the table and `count`, and no other.
-/
import TableApi.Find.Options
import TableApi.Proofs.Sql.Identifiers

namespace TableApi

open Json Sql

namespace Filter

-- ================================================================= fields

/-- One or more letters A to Z of either case, digits and underscores. -/
def IsPlainName (text : String) : Prop :=
  text ≠ "" ∧ ∀ c ∈ text.toList, c.isAlphanum = true ∨ c = '_'

theorem isAlphanum_of_isIdentifierChar {c : Char} (h : isIdentifierChar c = true) :
    c.isAlphanum = true ∨ c = '_' := by
  simp only [isIdentifierChar, decide_eq_true_eq] at h
  rcases h with hupper | hlower | hdigit | hunderscore
  · have hc : c.isUpper = true := decide_eq_true hupper
    exact .inl (Bool.or_eq_true_iff.2 (.inl (Bool.or_eq_true_iff.2 (.inl hc))))
  · have hc : c.isLower = true :=
      Bool.and_eq_true_iff.2 ⟨decide_eq_true hlower.1, decide_eq_true hlower.2⟩
    exact .inl (Bool.or_eq_true_iff.2 (.inl (Bool.or_eq_true_iff.2 (.inr hc))))
  · have hc : c.isDigit = true :=
      Bool.and_eq_true_iff.2 ⟨decide_eq_true hdigit.1, decide_eq_true hdigit.2⟩
    exact .inl (Bool.or_eq_true_iff.2 (.inr hc))
  · exact .inr hunderscore

theorem isPlainName_of_isIdentifier {field : String} (h : isIdentifier field = true) :
    IsPlainName field := by
  rw [isIdentifier, Bool.and_eq_true, List.all_eq_true] at h
  refine ⟨?_, fun c hc => isAlphanum_of_isIdentifierChar (h.2 c hc)⟩
  rintro rfl
  exact absurd h.1 (by decide)

mutual

/-- The rules of a tree at any depth, from left to right. -/
def Node.leaves : Node → List Rule
  | .rule r => [r]
  | .group _ _ rules => leavesAll rules

def leavesAll : List Node → List Rule
  | [] => []
  | node :: nodes => node.leaves ++ leavesAll nodes

end

/-- The condition of a rule names its field. -/
theorem columns_of_condition {r : Rule} {c : Condition} (h : r.condition = .ok c) :
    c.columns = [r.field] := by
  unfold Rule.condition at h
  dsimp only at h
  split at h
  case h_17 | h_18 =>
    split at h
    · obtain rfl := Except.ok.inj h
      rfl
    · cases h
  all_goals
    obtain rfl := Except.ok.inj h
    rfl

/-- A rule that is accepted names its field, which is plain. -/
theorem columns_of_compile_rule {r : Rule} {c : Condition} (h : r.compile = .ok c) :
    IsPlainName r.field ∧ c.columns = [r.field] := by
  obtain ⟨hfield, hcondition⟩ := Rule.compile_eq_ok h
  exact ⟨isPlainName_of_isIdentifier hfield, columns_of_condition hcondition⟩

/-- Joining names what the members name. -/
theorem columns_join (combinator : Combinator) (negate : Bool) (members : List Condition) :
    (join combinator negate members).columns = Condition.columnsAll members := by
  have hnegate : ∀ c : Condition, (if negate then Condition.not c else c).columns = c.columns := by
    intro c
    cases negate <;> rfl
  match members with
  | [] => rfl
  | [c] => exact (hnegate c).trans (List.append_nil _).symm
  | c :: d :: cs => cases combinator <;> exact hnegate _

mutual

/-- The columns of a compiled tree are the fields of its rules, and they
are plain. -/
theorem columns_of_compile :
    ∀ (node : Node) {c : Condition}, node.compile = .ok c →
      c.columns = node.leaves.map Rule.field ∧ ∀ r ∈ node.leaves, IsPlainName r.field
  | .rule r, c, h => by
      obtain ⟨hplain, hcolumns⟩ := columns_of_compile_rule h
      exact ⟨hcolumns, List.forall_mem_singleton.2 hplain⟩
  | .group combinator negate rules, c, h => by
      obtain ⟨members, hs, rfl⟩ := Node.compile_group_eq_ok h
      rw [columns_join]
      exact columnsAll_of_compileAll rules hs

theorem columnsAll_of_compileAll :
    ∀ (nodes : List Node) {cs : List Condition}, compileAll nodes = .ok cs →
      Condition.columnsAll cs = (leavesAll nodes).map Rule.field
        ∧ ∀ r ∈ leavesAll nodes, IsPlainName r.field
  | [], cs, h => by
      obtain rfl : [] = cs := Except.ok.inj h
      exact ⟨rfl, List.forall_mem_nil _⟩
  | node :: nodes, cs, h => by
      obtain ⟨d, ds, hc, hs, rfl⟩ := compileAll_cons_eq_ok h
      obtain ⟨hfirst, hplain⟩ := columns_of_compile node hc
      obtain ⟨hrest, hplain'⟩ := columnsAll_of_compileAll nodes hs
      rw [Condition.columnsAll, leavesAll, List.map_append, hfirst, hrest]
      exact ⟨rfl, List.forall_mem_append.2 ⟨hplain, hplain'⟩⟩

end

end Filter

-- ================================================================ options

namespace FindOptions

open TableApi.Filter

/-- The fields of the rules of the filter, if there is one. -/
def filterFields (o : FindOptions) : List String :=
  o.filter.elim [] fun g => g.toNode.leaves.map Rule.field

/-- The columns of the condition are the fields of the rules of the
filter, and they are plain. -/
theorem columns_of_compile {o : FindOptions} {t : Table} {s : Selection}
    (h : o.compile t = .ok s) :
    ∀ c ∈ s.condition, c.columns = o.filterFields ∧ ∀ column ∈ c.columns, IsPlainName column := by
  intro c hc
  obtain ⟨condition, hfilter, rfl⟩ := compile_eq_ok h
  obtain rfl : condition = some c := hc
  unfold filterFields
  cases hg : o.filter with
  | none =>
      rw [hg] at hfilter
      cases hfilter
  | some g =>
      rw [hg, compileFilter, Group.compile] at hfilter
      cases hcompiled : g.toNode.compile with
      | error e =>
          rw [hcompiled] at hfilter
          cases hfilter
      | ok d =>
          rw [hcompiled] at hfilter
          obtain rfl : d = c := Option.some.inj (Except.ok.inj hfilter)
          obtain ⟨hcolumns, hplain⟩ := Filter.columns_of_compile _ hcompiled
          exact ⟨hcolumns, hcolumns ▸ List.forall_mem_map.2 hplain⟩

/-- A field to sort by is looked up in the table, by its name. -/
theorem sortKey?_eq (t : Table) (f : OrderField) :
    sortKey? t f
      = if f.field ∈ t.columns.map Column.name then some ⟨f.field, f.direction⟩ else none := by
  unfold sortKey? Table.column?
  cases hc : t.columns.find? (·.name == f.field) with
  | none =>
      have hnone : f.field ∉ t.columns.map Column.name := fun hmem => by
        obtain ⟨c, hmem, hname⟩ := List.mem_map.1 hmem
        exact List.find?_eq_none.1 hc c hmem (beq_iff_eq.2 hname)
      rw [if_neg hnone]
      rfl
  | some c =>
      have hname : c.name = f.field := by simpa using List.find?_some hc
      have hmem : f.field ∈ t.columns.map Column.name :=
        hname ▸ List.mem_map_of_mem (List.mem_of_find?_eq_some hc)
      rw [if_pos hmem, ← hname]
      rfl

/-- The order is that of the options, less the fields that are no
column. -/
theorem filterMap_sortKey? (t : Table) :
    ∀ order : List OrderField,
      order.filterMap (sortKey? t)
        = (order.filter fun f => f.field ∈ t.columns.map Column.name).map
            fun f => ⟨f.field, f.direction⟩
  | [] => rfl
  | f :: order => by
      rw [List.filterMap_cons, sortKey?_eq, List.filter_cons, filterMap_sortKey? t order]
      by_cases hcolumn : f.field ∈ t.columns.map Column.name
      · rw [if_pos hcolumn, if_pos (decide_eq_true hcolumn)]
        rfl
      · rw [if_neg hcolumn, if_neg (by simpa using hcolumn)]

end FindOptions

namespace Selection

/-- The identifiers that the statements of a selection may quote: its
columns, the names of the table, and `count`. -/
def identifiers (t : Table) (s : Selection) : List String :=
  s.condition.elim [] Condition.columns ++ s.order.map SortKey.column ++ t.names ++ ["count"]

variable {T : String → Prop} {t : Table}

/-- The statements that read a page, and count what is on all pages. -/
theorem quotes_identifiers (ht : t.HasTypes T) (s : Selection) :
    ∀ statement ∈ [Statement.select t s, .count t s.condition],
      statement.sql.Quotes (· ∈ s.identifiers t) T := by
  have hcolumns : ∀ c ∈ s.condition, ∀ column ∈ c.columns, column ∈ s.identifiers t := by
    intro c hc column hcolumn
    simp [identifiers, Option.mem_def.1 hc, hcolumn]
  have horder : ∀ key ∈ s.order, key.column ∈ s.identifiers t := fun key hkey => by
    simp only [identifiers, List.mem_append]
    exact .inl (.inl (.inr (List.mem_map_of_mem hkey)))
  have hnames : ∀ name ∈ t.names, name ∈ s.identifiers t := fun name hname => by
    simp [identifiers, hname]
  have hcount : "count" ∈ s.identifiers t := by simp [identifiers]
  refine List.forall_mem_cons.2 ⟨?_, List.forall_mem_singleton.2 ?_⟩
  · exact selectSql_quotes ht hnames hcolumns horder
  · exact countSql_quotes ht hnames hcount hcolumns

end Selection

namespace FindOptions

open TableApi.Filter

/-- Options that are accepted name safe columns: those of the condition
are fields of the filter's rules and plain identifiers, those of the
order are columns of the table, in the order asked for. And the texts
that read a page and count all rows quote them, the names of the table
and `count`, and nothing else: quotes stand nowhere but around these and
in the types of columns, and if there are none in types, these are the
names that are read from the text. -/
theorem identifiers_of_compile {o : FindOptions} {t : Table} {s : Selection}
    (h : o.compile t = .ok s) :
    (∀ c ∈ s.condition, ∀ column ∈ c.columns, IsPlainName column ∧ column ∈ o.filterFields)
      ∧ s.order = (o.order.filter fun f => f.field ∈ t.columns.map Column.name).map
          (fun f => ⟨f.field, f.direction⟩)
      ∧ (∀ key ∈ s.order, key.column ∈ t.columns.map Column.name)
      ∧ ∀ statement ∈ [Statement.select t s, .count t s.condition],
          statement.toQuery.sql = String.ofList (statement.sql.charsFrom 1)
            ∧ (∀ p ∈ statement.sql,
                p.Quotes (· ∈ s.identifiers t) fun type => ∃ c ∈ t.columns, c.type = type)
            ∧ ((∀ c ∈ t.columns, '"' ∉ c.type.toList) →
                ∀ name ∈ quotedNames statement.toQuery.sql, name ∈ s.identifiers t) := by
  have horder : s.order = (o.order.filter fun f => f.field ∈ t.columns.map Column.name).map
      fun f => ⟨f.field, f.direction⟩ := by
    obtain ⟨condition, -, rfl⟩ := compile_eq_ok h
    exact filterMap_sortKey? t o.order
  refine ⟨fun c hc column hcolumn => ?_, horder, ?_, fun statement hstatement => ⟨?_, ?_, ?_⟩⟩
  · obtain ⟨hcolumns, hplain⟩ := columns_of_compile h c hc
    exact ⟨hplain column hcolumn, hcolumns ▸ hcolumn⟩
  · rw [horder]
    exact List.forall_mem_map.2 fun f hf => by simpa using (List.mem_filter.1 hf).2
  · rw [Statement.toQuery_eq]
    rfl
  · have htypes : t.HasTypes fun type => ∃ c ∈ t.columns, c.type = type := fun c hc => ⟨c, hc, rfl⟩
    exact (s.quotes_identifiers htypes statement hstatement).forall_mem
  · intro htypes name hname
    have hplain : t.HasTypes fun type => '"' ∉ type.toList := htypes
    have hquotes := s.quotes_identifiers hplain statement hstatement
    rw [Statement.toQuery_eq, quotedNames, Query.ofFragment, String.toList_ofList] at hname
    exact hquotes.quotedFrom 1 name hname

/-- A filter with quotes in its values, on a table with one in its name,
sorted by a field that is no column and one that is. -/
theorem identifiers_of_nested_negations :
    let t : Table := ⟨some "app", "no\"tes", "id",
      [⟨"id", "int8", true⟩, ⟨"size", "numeric", false⟩]⟩
    let unread : Node := .group .and true [.rule ⟨"read_at", .isNull, some (.string "\"x\"")⟩]
    let o : FindOptions :=
      ⟨some ⟨.or, true, [unread, .rule ⟨"title", .iLike, some (.string "\" OR 1 = 1")⟩]⟩,
        none, none, [⟨"id\"", .ascending⟩, ⟨"size", .descending⟩]⟩
    let s : Selection :=
      ⟨some (.not (.or [.not (.isNull "read_at" false), .like "title" "\" OR 1 = 1" true false])),
        [⟨"size", .descending⟩], some 10, some 0⟩
    let select : Statement := .select t s
    o.compile t = .ok s
      ∧ (IsPlainName "read_at" ∧ "read_at" ∈ o.filterFields)
      ∧ quotedNames select.toQuery.sql
        = ["id", "size", "size", "app", "no\"tes", "read_at", "title", "size"]
      ∧ ∀ name ∈ quotedNames select.toQuery.sql, name ∈ s.identifiers t := by
  intro t unread o s select
  have hcompile : o.compile t = .ok s := rfl
  have htypes : ∀ c ∈ t.columns, '"' ∉ c.type.toList := by decide
  obtain ⟨hcolumns, -, -, hstatements⟩ := identifiers_of_compile hcompile
  exact ⟨hcompile, hcolumns _ rfl "read_at" List.mem_cons_self, by decide +kernel,
    (hstatements select List.mem_cons_self).2.2 htypes⟩

end FindOptions

end TableApi
