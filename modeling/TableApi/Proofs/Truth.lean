/-
The order of the truth values: false below unknown below true.

The connectives are defined by cases; here they are the minimum and the
maximum of the order, of two values and of every list but the empty one,
which has neither. Of a list they do not depend on its order, nor on how
it is cut into pieces, and negation exchanges them.
-/
import Mathlib.Order.Defs.LinearOrder
import Mathlib.Order.Lattice
import TableApi.Truth

namespace TableApi.Truth

-- ============================================================= the order

/-- The place of a truth value in the order. -/
def rank : Truth → Nat
  | no => 0
  | unknown => 1
  | yes => 2

/-- Every truth value has a place of its own. -/
theorem rank_injective : Function.Injective rank := by
  intro a b h
  cases a <;> cases b <;> first | rfl | cases h

instance : LinearOrder Truth := LinearOrder.lift' rank rank_injective

/-- There are three truth values. -/
theorem eq_unknown_of_ne {a : Truth} (hyes : a ≠ yes) (hno : a ≠ no) : a = unknown := by
  cases a with
  | no => exact absurd rfl hno
  | unknown => rfl
  | yes => exact absurd rfl hyes

/-- A truth value is known by when it is true and when it is false. -/
theorem eq_of_iff {a b : Truth} (hyes : a = yes ↔ b = yes) (hno : a = no ↔ b = no) : a = b := by
  cases a with
  | no => exact (hno.1 rfl).symm
  | unknown =>
      refine (eq_unknown_of_ne (fun h => ?_) fun h => ?_).symm
      · cases hyes.2 h
      · cases hno.2 h
  | yes => exact (hyes.1 rfl).symm

-- ======================================================= the connectives

/-- A conjunction is the lesser of two. -/
theorem and_eq_min (a b : Truth) : a.and b = min a b := by
  cases a <;> cases b <;> rfl

/-- A disjunction is the greater. -/
theorem or_eq_max (a b : Truth) : a.or b = max a b := by
  cases a <;> cases b <;> rfl

/-- To negate once more is to negate the result. -/
theorem negateIf_not (negated : Bool) (t : Truth) :
    t.negateIf (!negated) = (t.negateIf negated).not := by
  cases negated with
  | false => rfl
  | true => exact (not_not t).symm

/-- The least of some values, from one on, is the conjunction of all. -/
theorem foldl_min (ts : List Truth) : ∀ t : Truth, ts.foldl min t = t.and (all ts) := by
  induction ts with
  | nil => intro t; simp [all]
  | cons u ts ih =>
      intro t
      rw [List.foldl_cons, ih, ← and_eq_min, and_assoc]
      rfl

/-- The greatest is the disjunction. -/
theorem foldl_max (ts : List Truth) : ∀ t : Truth, ts.foldl max t = t.or (any ts) := by
  induction ts with
  | nil => intro t; simp [any]
  | cons u ts ih =>
      intro t
      rw [List.foldl_cons, ih, ← or_eq_max, or_assoc]
      rfl

/-- The conjunction of one or more truth values is the least of them. -/
theorem min?_cons (t : Truth) (ts : List Truth) : (t :: ts).min? = some (all (t :: ts)) := by
  rw [List.min?_cons', foldl_min]
  rfl

/-- The disjunction of one or more truth values is the greatest. -/
theorem max?_cons (t : Truth) (ts : List Truth) : (t :: ts).max? = some (any (t :: ts)) := by
  rw [List.max?_cons', foldl_max]
  rfl

-- ====================================================== of many at once

/-- A conjunction can be taken in two parts. -/
theorem all_append (ts us : List Truth) : all (ts ++ us) = (all ts).and (all us) := by
  induction ts with
  | nil => rfl
  | cons t ts ih =>
      show t.and (all (ts ++ us)) = (t.and (all ts)).and (all us)
      rw [ih, and_assoc]

/-- A disjunction can be taken in two parts. -/
theorem any_append (ts us : List Truth) : any (ts ++ us) = (any ts).or (any us) := by
  induction ts with
  | nil => rfl
  | cons t ts ih =>
      show t.or (any (ts ++ us)) = (t.or (any ts)).or (any us)
      rw [ih, or_assoc]

/-- A conjunction does not depend on the order of its parts. -/
theorem all_perm {ts us : List Truth} (h : ts.Perm us) : all ts = all us := by
  refine h.foldr_eq' (fun t _ u _ v => ?_) yes
  rw [← and_assoc, ← and_assoc, and_comm u t]

/-- A disjunction does not depend on the order of its parts. -/
theorem any_perm {ts us : List Truth} (h : ts.Perm us) : any ts = any us := by
  refine h.foldr_eq' (fun t _ u _ v => ?_) no
  rw [← or_assoc, ← or_assoc, or_comm u t]

/-- The negation of a conjunction is the disjunction of the negations. -/
theorem not_all (ts : List Truth) : (all ts).not = any (ts.map Truth.not) := by
  induction ts with
  | nil => rfl
  | cons t ts ih =>
      show (t.and (all ts)).not = t.not.or (any (ts.map Truth.not))
      rw [not_and, ih]

/-- The negation of a disjunction is the conjunction of the negations. -/
theorem not_any (ts : List Truth) : (any ts).not = all (ts.map Truth.not) := by
  induction ts with
  | nil => rfl
  | cons t ts ih =>
      show (t.or (any ts)).not = t.not.and (all (ts.map Truth.not))
      rw [not_or, ih]

/-- A disjunction is true if one of its parts is. -/
theorem any_eq_yes_iff {ts : List Truth} : any ts = yes ↔ yes ∈ ts := by
  induction ts with
  | nil => decide
  | cons t ts ih =>
      show t.or (any ts) = yes ↔ yes ∈ t :: ts
      rw [List.mem_cons, ← ih]
      cases t <;> cases any ts <;> decide

/-- A disjunction is false if all of its parts are. -/
theorem any_eq_no_iff {ts : List Truth} : any ts = no ↔ ∀ t ∈ ts, t = no := by
  induction ts with
  | nil => simp [any]
  | cons t ts ih =>
      show t.or (any ts) = no ↔ ∀ u ∈ t :: ts, u = no
      rw [List.forall_mem_cons, ← ih]
      cases t <;> cases any ts <;> decide

end TableApi.Truth
