/-
From filter trees to conditions.

An empty group keeps every row, negated or not; a group with one member
is that member. The fields of rules have to be plain identifiers, a
range rule has to have two bounds, and the first rule that offends, in
the order of the tree, is the one reported. No other value is refused.
-/
import TableApi.Filter.Basic
import TableApi.Condition.Order
import TableApi.Condition.Basic
import TableApi.Like

namespace TableApi.Filter

open Json

/-- Why a filter is refused. -/
inductive FilterError where
  | invalidField (field : String)
  | invalidRange (field : String) (operator : Operator)
  | malformed
deriving DecidableEq

namespace FilterError

def message : FilterError → String
  | invalidField field => "invalid field identifier '" ++ field ++ "'"
  | invalidRange field operator =>
      "operator " ++ operator.tag ++ " on '" ++ field
        ++ "' requires a [low, high] pair"
  | malformed => "malformed filter: not a filter tree"

end FilterError

/-- A letter A to Z of either case, a digit or an underscore. -/
def isIdentifierChar (c : Char) : Bool :=
  ('A' ≤ c ∧ c ≤ 'Z') ∨ ('a' ≤ c ∧ c ≤ 'z') ∨ ('0' ≤ c ∧ c ≤ '9') ∨ c = '_'

/-- One or more identifier characters. -/
def isIdentifier (field : String) : Bool :=
  !field.isEmpty && field.toList.all isIdentifierChar

def checkField (field : String) : Except FilterError Unit :=
  if isIdentifier field then .ok () else .error (.invalidField field)

/-- The text of a rule's value; null is the empty text. -/
def literalText (v : Value) : List Char := (v.plainText?.getD "").toList

/-- A pattern that finds the text of a value literally. -/
def around (before : List Char) (v : Value) (after : List Char) : String :=
  String.ofList (before ++ Like.escape (literalText v) ++ after)

/-- The values that a list rule accepts: those of an array, or the one
value it is given. -/
def listed : Value → List Value
  | .array items => items
  | v => [v]

/-- The condition of a rule whose field has been checked. -/
def Rule.condition (r : Rule) : Except FilterError Condition :=
  let v := r.value.getD .null
  let range (negated : Bool) : Except FilterError Condition :=
    match v with
    | .array [low, high] => .ok (.between r.field low high negated)
    | _ => .error (.invalidRange r.field r.operator)
  match r.operator with
  | .equals => .ok (.compare r.field .eq v)
  | .notEquals => .ok (.compare r.field .ne v)
  | .greater => .ok (.compare r.field .gt v)
  | .greaterEquals => .ok (.compare r.field .ge v)
  | .less => .ok (.compare r.field .lt v)
  | .lessEquals => .ok (.compare r.field .le v)
  | .contains => .ok (.like r.field (around ['%'] v ['%']) true false)
  | .notContains => .ok (.like r.field (around ['%'] v ['%']) true true)
  | .startsWith => .ok (.like r.field (around [] v ['%']) true false)
  | .endsWith => .ok (.like r.field (around ['%'] v []) true false)
  | .like => .ok (.like r.field (String.ofList (literalText v)) false false)
  | .iLike => .ok (.like r.field (String.ofList (literalText v)) true false)
  | .isNull => .ok (.isNull r.field false)
  | .isNotNull => .ok (.isNull r.field true)
  | .oneOf => .ok (.inList r.field (listed v) false)
  | .notOneOf => .ok (.inList r.field (listed v) true)
  | .between => range false
  | .notBetween => range true

def Rule.compile (r : Rule) : Except FilterError Condition := do
  checkField r.field
  r.condition

/-- Joins the conditions of a group's members. -/
def join (combinator : Combinator) (negate : Bool) (members : List Condition) :
    Condition :=
  match members with
  | [] => .always
  | members =>
      let joined := match members, combinator with
        | [only], _ => only
        | all, .and => .and all
        | all, .or => .or all
      if negate then .not joined else joined

mutual

def Node.compile : Node → Except FilterError Condition
  | .rule r => r.compile
  | .group combinator negate rules => do
      let members ← compileAll rules
      return join combinator negate members

def compileAll : List Node → Except FilterError (List Condition)
  | [] => .ok []
  | node :: nodes => do
      let c ← node.compile
      let cs ← compileAll nodes
      return c :: cs

end

/-- The condition of a filter. -/
def Group.compile (g : Group) : Except FilterError Condition := g.toNode.compile

-- A tree is accepted if all that it is made of is.

theorem Rule.compile_eq_ok {r : Rule} {c : Condition} (h : r.compile = .ok c) :
    isIdentifier r.field = true ∧ r.condition = .ok c := by
  unfold Rule.compile checkField at h
  split at h
  case isTrue hfield => exact ⟨hfield, h⟩
  case isFalse => cases h

theorem Rule.compile_of_isIdentifier {r : Rule} (h : isIdentifier r.field = true) :
    r.compile = r.condition := by
  unfold Rule.compile checkField
  rw [if_pos h]
  rfl

theorem Rule.compile_of_not_isIdentifier {r : Rule} (h : ¬ isIdentifier r.field = true) :
    r.compile = .error (.invalidField r.field) := by
  unfold Rule.compile checkField
  rw [if_neg h]
  rfl

theorem Node.compile_group_eq_ok {combinator : Combinator} {negate : Bool} {rules : List Node}
    {c : Condition} (h : (Node.group combinator negate rules).compile = .ok c) :
    ∃ members, compileAll rules = .ok members ∧ c = join combinator negate members := by
  cases hs : compileAll rules with
  | error e =>
      rw [Node.compile, hs] at h
      cases h
  | ok members =>
      rw [Node.compile, hs] at h
      exact ⟨members, rfl, (Except.ok.inj h).symm⟩

theorem compileAll_cons_eq_ok {node : Node} {nodes : List Node} {cs : List Condition}
    (h : compileAll (node :: nodes) = .ok cs) :
    ∃ d ds, node.compile = .ok d ∧ compileAll nodes = .ok ds ∧ cs = d :: ds := by
  cases hc : node.compile with
  | error e =>
      rw [compileAll, hc] at h
      cases h
  | ok d =>
      cases hs : compileAll nodes with
      | error e =>
          rw [compileAll, hc, hs] at h
          cases h
      | ok ds =>
          rw [compileAll, hc, hs] at h
          exact ⟨d, ds, rfl, rfl, (Except.ok.inj h).symm⟩

end TableApi.Filter
