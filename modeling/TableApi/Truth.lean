/-
Three-valued logic: false below unknown below true.

`and` is the minimum, `or` the maximum, and `not` turns the order round
and keeps what is unknown.
-/

namespace TableApi

inductive Truth where
  | no
  | unknown
  | yes
deriving DecidableEq

namespace Truth

def ofBool (b : Bool) : Truth := if b then yes else no

protected def and : Truth → Truth → Truth
  | no, _ => no
  | yes, b => b
  | unknown, no => no
  | unknown, _ => unknown

protected def or : Truth → Truth → Truth
  | yes, _ => yes
  | no, b => b
  | unknown, yes => yes
  | unknown, _ => unknown

protected def not : Truth → Truth
  | no => yes
  | unknown => unknown
  | yes => no

/-- True of all: the minimum, true if there is none. -/
def all (ts : List Truth) : Truth := ts.foldr Truth.and yes

/-- True of some: the maximum, false if there is none. -/
def any (ts : List Truth) : Truth := ts.foldr Truth.or no

/-- The negation if `negated`, else the truth value itself. -/
def negateIf (negated : Bool) (t : Truth) : Truth := if negated then t.not else t

/-- Definitely true. -/
def holds (t : Truth) : Bool := t == yes

-- ================================================================= laws

theorem and_comm (a b : Truth) : a.and b = b.and a := by
  cases a <;> cases b <;> rfl

theorem and_assoc (a b c : Truth) : (a.and b).and c = a.and (b.and c) := by
  cases a <;> cases b <;> cases c <;> rfl

theorem or_comm (a b : Truth) : a.or b = b.or a := by
  cases a <;> cases b <;> rfl

theorem or_assoc (a b c : Truth) : (a.or b).or c = a.or (b.or c) := by
  cases a <;> cases b <;> cases c <;> rfl

@[simp] theorem not_not (a : Truth) : a.not.not = a := by cases a <;> rfl

theorem not_and (a b : Truth) : (a.and b).not = a.not.or b.not := by
  cases a <;> cases b <;> rfl

theorem not_or (a b : Truth) : (a.or b).not = a.not.and b.not := by
  cases a <;> cases b <;> rfl

@[simp] theorem and_yes (a : Truth) : a.and yes = a := by cases a <;> rfl

@[simp] theorem or_no (a : Truth) : a.or no = a := by cases a <;> rfl

end Truth

end TableApi
