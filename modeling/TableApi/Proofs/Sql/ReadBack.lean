/-
The text of a condition read back.

A condition is written as its pieces (`Condition.render_writes`), and its
pieces read as the expression of the condition (`Condition.reads_sql_iff`). So
whatever text the writer makes of a condition, from any values that are bound
already, is that expression and no other; and since the values that it binds
are those of the condition, the text is true of a row as the condition is.
-/
import TableApi.Proofs.Sql.Rendering

namespace TableApi.Condition

open Json Sql

variable {table : Table}

/-- A text that comes with parameters says what a condition says. -/
structure Says (table : Table) (c : Condition) (n : Nat) (text : String)
    (params : List Value) : Prop where
  /-- It reads as the expression of the condition, with the placeholders
  numbered from `n` on, and as no other. -/
  reads : ∀ e : Expr, e.Reads text.toList ↔ e = c.expr table n
  /-- What it reads as is true of every row as the condition is. -/
  truth : ∀ (row : Row) (e : Expr), e.Reads text.toList → e.eval row params = c.eval row

/-- The pieces of a condition say it, behind any parameters and before any
others. -/
theorem says_sql (ht : table.TypesAreWords) (c : Condition) (before after : List Value) :
    c.Says table (before.length + 1) (String.ofList ((c.sql table).charsFrom (before.length + 1)))
      (before ++ (c.sql table).params ++ after) := by
  constructor
  · intro e
    rw [String.toList_ofList]
    exact reads_sql_iff ht c _
  · intro row e he
    rw [String.toList_ofList, reads_sql_iff ht c] at he
    rw [he, params_sql]
    exact eval_expr table row after c before

/-- The text that is written for a condition, behind any values that are bound
before it and whatever is bound behind it, binds the values of the condition
and says what it says; and so does the text of the condition by itself. -/
theorem rendered_text_reads_as_condition (table : Table) (ht : table.TypesAreWords)
    (c : Condition) :
    (∀ (bound : Array Value) (after : List Value),
      let rendered := (c.render table).run bound
      rendered.2 = bound ++ c.values.toArray
        ∧ c.Says table (bound.size + 1) rendered.1 (rendered.2.toList ++ after))
      ∧ (c.toQuery table).params = c.values
      ∧ c.Says table 1 (c.toQuery table).sql (c.toQuery table).params := by
  refine ⟨fun bound after => ?_, ?_, ?_⟩
  · simp only [render_writes table c bound, params_sql, true_and]
    have hsays := says_sql ht c bound.toList after
    rw [params_sql, Array.length_toList] at hsays
    rw [Array.toList_append]
    exact hsays
  · rw [toQuery_eq]
    exact params_sql table c
  · rw [toQuery_eq]
    have hsays := says_sql ht c [] []
    rw [List.append_nil, List.nil_append] at hsays
    exact hsays

/-- A range beside a pattern under a negation, with a quote in the name
of the column: the first `AND` is the one of the range. -/
theorem rendered_range_beside_pattern :
    let table : Table := ⟨none, "items", "id", [⟨"a\"b", "pg_catalog.int4", false⟩]⟩
    let c : Condition := .not (.or
      [.and [.between "a\"b" (.int 1) (.int 2) true, .like "c" "%x" true false],
        .inList "c" [] true])
    let e : Expr := .not (.or
      [.and
        [.leaf (.between (.column "a\"b") (.cast (.param 1) "pg_catalog.int4")
            (.cast (.param 2) "pg_catalog.int4") true),
          .leaf (.like (.cast (.column "c") "text") (.param 3) true false)],
        .leaf (.compare .eq (.number 1) (.number 1))])
    let rendered := (c.render table).run #[.null]
    table.TypesAreWords
      ∧ (c.toQuery table).sql
        = "NOT (((\"a\"\"b\" NOT BETWEEN $1::pg_catalog.int4 AND $2::pg_catalog.int4"
          ++ " AND \"c\"::text ILIKE $3) OR 1 = 1))"
      ∧ (c.toQuery table).params = [.int 1, .int 2, .string "%x"]
      ∧ (∀ e' : Expr, e'.Reads (c.toQuery table).sql.toList ↔ e' = e)
      ∧ (∀ (row : Row) (e' : Expr), e'.Reads (c.toQuery table).sql.toList →
          e'.eval row [.int 1, .int 2, .string "%x"] = c.eval row)
      ∧ rendered.1
        = "NOT (((\"a\"\"b\" NOT BETWEEN $2::pg_catalog.int4 AND $3::pg_catalog.int4"
          ++ " AND \"c\"::text ILIKE $4) OR 1 = 1))"
      ∧ ∀ (row : Row) (e' : Expr), e'.Reads rendered.1.toList →
          e'.eval row [.null, .int 1, .int 2, .string "%x"] = c.eval row := by
  intro table c e rendered
  have ht : table.TypesAreWords := by
    intro column hcolumn
    obtain rfl := List.mem_singleton.1 hcolumn
    exact ⟨by decide, List.all_eq_true.1 rfl⟩
  obtain ⟨hbound, hparams, halone⟩ := rendered_text_reads_as_condition table ht c
  obtain ⟨-, hbehind⟩ := hbound #[.null] []
  exact ⟨ht, by decide +kernel, hparams, halone.reads, halone.truth, by decide +kernel,
    hbehind.truth⟩

end TableApi.Condition
