/-
What a filter means, and that its condition says so.

The meaning of a tree is given without conditions, member by member: a
group without members is true, negated or not; any other takes the least
or the greatest truth value of its members and negates it if asked to.
Only a rule is handed to the compiler, and a rule that is refused has no
meaning.

# What the compiler adds

`Filter.join` differs from this reading in three places: a group with one
member is that member, an empty group drops its negation, and both happen
before the negation is looked at. `eval_join` settles the three at once
for any members; the rest is an induction over the tree.
-/
import TableApi.Condition.Eval
import TableApi.Filter.Compile
import TableApi.Proofs.Truth

namespace TableApi

open Json

-- ================================================ conditions and rows

namespace Condition

theorem evalAll_eq_map (row : Row) (cs : List Condition) :
    evalAll row cs = cs.map (eval row) := by
  induction cs with
  | nil => rfl
  | cons c cs ih => rw [evalAll, ih, List.map_cons]

mutual

/-- A condition sees nothing of a row but its cells. -/
theorem eval_congr {row row' : Row} (h : ∀ column, row.cell column = row'.cell column) :
    ∀ c : Condition, c.eval row = c.eval row'
  | always | never => rfl
  | compare _ _ _ | like _ _ _ _ | isNull _ _ | inList _ _ _ | between _ _ _ _ => by
      simp only [eval, h]
  | and cs => by rw [eval, evalAll_congr h cs, eval]
  | or cs => by rw [eval, evalAll_congr h cs, eval]
  | not c => by rw [eval, eval_congr h c, eval]

theorem evalAll_congr {row row' : Row} (h : ∀ column, row.cell column = row'.cell column) :
    ∀ cs : List Condition, evalAll row cs = evalAll row' cs
  | [] => rfl
  | c :: cs => by rw [evalAll, eval_congr h c, evalAll_congr h cs, evalAll]

end

/-- A missing cell is a null: putting the null in changes no cell. -/
theorem cell_set_null {row : Row} {column : String} (h : row.get? column = none)
    (c : String) : (row.set column .null).cell c = row.cell c := by
  unfold Row.cell
  rw [Row.get?_set]
  by_cases hc : c = column
  · subst hc
    rw [if_pos rfl, h]
    rfl
  · rw [if_neg hc]

end Condition

namespace Filter

-- ============================================================== meaning

/-- What a combinator makes of the truth values of its members, if there
are any: the least for `and`, the greatest for `or`. -/
def Combinator.truth? : Combinator → List Truth → Option Truth
  | and, ts => ts.min?
  | or, ts => ts.max?

/-- The truth value of a group from those of its members. -/
def groupTruth (combinator : Combinator) (negate : Bool) (ts : List Truth) : Truth :=
  match combinator.truth? ts with
  | none => .yes
  | some t => t.negateIf negate

/-- The conjunction of the members, or their disjunction. -/
def Combinator.joined : Combinator → List Truth → Truth
  | and => Truth.all
  | or => Truth.any

theorem groupTruth_of_ne_nil {ts : List Truth} (h : ts ≠ []) (combinator : Combinator)
    (negate : Bool) :
    groupTruth combinator negate ts = (combinator.joined ts).negateIf negate := by
  obtain ⟨t, ts, rfl⟩ := List.exists_cons_of_ne_nil h
  cases combinator with
  | and => rw [groupTruth, Combinator.truth?, Truth.min?_cons, Combinator.joined]
  | or => rw [groupTruth, Combinator.truth?, Truth.max?_cons, Combinator.joined]

mutual

/-- The truth value of a tree on a row, if all its rules are accepted. -/
def Node.meaning? (row : Row) : Node → Option Truth
  | .rule r => r.compile.toOption.map (·.eval row)
  | .group combinator negate rules =>
      (meaningAll? row rules).map (groupTruth combinator negate)

def meaningAll? (row : Row) : List Node → Option (List Truth)
  | [] => some []
  | node :: nodes => do
      let t ← node.meaning? row
      let ts ← meaningAll? row nodes
      return t :: ts

end

-- ========================================================= the compiler

/-- Joined conditions have the truth value of the group. -/
theorem eval_join (combinator : Combinator) (negate : Bool) (members : List Condition)
    (row : Row) :
    (join combinator negate members).eval row
      = groupTruth combinator negate (members.map (Condition.eval row)) := by
  have hnegate : ∀ c : Condition, (if negate then Condition.not c else c).eval row
      = (c.eval row).negateIf negate := by
    intro c
    cases negate <;> rfl
  match members with
  | [] => cases combinator <;> rfl
  | [c] => cases combinator <;> exact hnegate c
  | c :: d :: cs =>
      have hne : (c :: d :: cs).map (Condition.eval row) ≠ [] := List.cons_ne_nil _ _
      rw [groupTruth_of_ne_nil hne, ← Condition.evalAll_eq_map]
      cases combinator <;> exact hnegate _

mutual

/-- A tree has a meaning if it is accepted: the truth value of its
condition. -/
theorem meaning?_eq (row : Row) :
    ∀ node : Node, node.meaning? row = node.compile.toOption.map (·.eval row)
  | .rule _ => rfl
  | .group combinator negate rules => by
      rw [Node.meaning?, Node.compile, meaningAll?_eq row rules]
      cases compileAll rules with
      | error e => rfl
      | ok members => exact congrArg some (eval_join combinator negate members row).symm

theorem meaningAll?_eq (row : Row) :
    ∀ nodes : List Node,
      meaningAll? row nodes = (compileAll nodes).toOption.map (·.map (Condition.eval row))
  | [] => rfl
  | node :: nodes => by
      rw [meaningAll?, compileAll, meaning?_eq row node, meaningAll?_eq row nodes]
      cases node.compile with
      | error e => rfl
      | ok c => cases compileAll nodes <;> rfl

end

theorem meaning?_of_compile (row : Row) (node : Node) {c : Condition} (h : node.compile = .ok c) :
    node.meaning? row = some (c.eval row) := by
  rw [meaning?_eq, h]
  rfl

/-- An accepted filter has a meaning on every row, which is the truth
value of its condition; a row is kept when it is true, and a rule reads a
missing column as it reads a null. -/
theorem compile_eval_eq_meaning (g : Group) (c : Condition) (hc : g.compile = .ok c)
    (row : Row) :
    g.toNode.meaning? row = some (c.eval row)
      ∧ (c.keeps row = true ↔ g.toNode.meaning? row = some .yes)
      ∧ ∀ (r : Rule) (leaf : Condition), r.compile = .ok leaf →
          row.get? r.field = none → leaf.eval row = leaf.eval (row.set r.field .null) := by
  have hmeaning := meaning?_of_compile row g.toNode hc
  refine ⟨hmeaning, ?_, fun r leaf _ hmissing => ?_⟩
  · rw [hmeaning, Option.some.injEq, Condition.keeps, Truth.holds, beq_iff_eq]
  · exact Condition.eval_congr
      (fun column => (Condition.cell_set_null hmissing column).symm) leaf

/-- A negated group of two rules over a missing column, beside a negated
empty group. -/
theorem meaning_of_missing_column :
    let unknown : Node := .rule ⟨"email", .equals, some (.string "x")⟩
    let g : Group := ⟨.or, true,
      [.group .and true [unknown, .rule ⟨"id", .isNull, none⟩], unknown]⟩
    let c : Condition := .not (.or
      [.not (.and [.compare "email" .eq (.string "x"), .isNull "id" false]),
        .compare "email" .eq (.string "x")])
    let row : Row := Row.empty.set "id" .null
    g.compile = .ok c
      ∧ g.toNode.meaning? row = some .unknown
      ∧ c.eval row = .unknown
      ∧ c.keeps row = false := by
  intro unknown g c row
  have hc : g.compile = .ok c := by rfl
  have hrow : c.eval row = .unknown := by rfl
  obtain ⟨hmeaning, hkeeps, -⟩ := compile_eval_eq_meaning g c hc row
  refine ⟨hc, hmeaning.trans (by rw [hrow]), hrow, ?_⟩
  rw [hmeaning, hrow] at hkeeps
  cases hk : c.keeps row with
  | false => rfl
  | true => cases hkeeps.1 hk

end Filter

end TableApi
