/-
What a condition says of a row, in three-valued logic.

A column that the row lacks reads as null. A comparison with null is
unknown, and so is one between values that do not compare. Only a
definite yes keeps a row.
-/
import TableApi.Truth
import TableApi.Like
import TableApi.Condition.Basic
import TableApi.Condition.Order

namespace TableApi

open Json

namespace CompareOp

/-- Whether the operator accepts an order of its two sides. -/
def accepts : CompareOp → Ordering → Bool
  | eq, o => o == .eq
  | ne, o => o != .eq
  | gt, o => o == .gt
  | ge, o => o != .lt
  | lt, o => o == .lt
  | le, o => o != .gt

end CompareOp

namespace Condition

/-- A comparison of two values. -/
def compareTruth (op : CompareOp) (a b : Value) : Truth :=
  match a.compare? b with
  | some o => .ofBool (op.accepts o)
  | none => .unknown

/-- Whether a value equals one in a list. Without a hit, a null in the
list leaves it unknown. -/
def memberTruth (v : Value) (values : List Value) : Truth :=
  if values.isEmpty then .no
  else if v.isNull then .unknown
  else if values.any fun w => v.compare? w == some .eq then .yes
  else if values.any Value.isNull then .unknown
  else .no

/-- Whether a value lies between two bounds: unknown unless it compares
with both. -/
def betweenTruth (v low high : Value) : Truth :=
  match v.compare? low, v.compare? high with
  | some lo, some hi => .ofBool (lo != .lt && hi != .gt)
  | _, _ => .unknown

/-- Whether the text of a value matches a pattern; null has no text. -/
def likeTruth (v : Value) (pattern : String) (ignoreCase : Bool) : Truth :=
  match v.plainText? with
  | some text => .ofBool (Like.isMatch text.toList pattern.toList ignoreCase)
  | none => .unknown

mutual

/-- The truth value of a condition on a row. -/
def eval (row : Row) : Condition → Truth
  | always => .yes
  | never => .no
  | compare column op value => compareTruth op (row.cell column) value
  | like column pattern ignoreCase negated =>
      (likeTruth (row.cell column) pattern ignoreCase).negateIf negated
  | isNull column negated =>
      (Truth.ofBool (row.cell column).isNull).negateIf negated
  | inList column values negated =>
      (memberTruth (row.cell column) values).negateIf negated
  | between column low high negated =>
      (betweenTruth (row.cell column) low high).negateIf negated
  | and conditions => .all (evalAll row conditions)
  | or conditions => .any (evalAll row conditions)
  | not condition => (eval row condition).not

def evalAll (row : Row) : List Condition → List Truth
  | [] => []
  | c :: cs => eval row c :: evalAll row cs

end

/-- Whether the condition keeps the row. -/
def keeps (c : Condition) (row : Row) : Bool := (c.eval row).holds

theorem keeps_iff {c : Condition} {row : Row} : c.keeps row = true ↔ c.eval row = .yes :=
  beq_iff_eq

end Condition

end TableApi
