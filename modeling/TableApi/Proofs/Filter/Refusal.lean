/-
Which filters are refused, and for what.

A filter is settled by its rules, taken from left to right at any depth:
it is refused for the first of them that offends, and accepted if none
does. The groups around the rules have no say in this, neither how they
are joined nor whether they are negated or empty.

# What a rule is asked

Two things only: that its field is a plain name, and, of a range, that
its value is a list of two bounds. A rule that fails on both counts is
reported for its field. Every other value, of whatever kind, becomes part
of a condition (`condition_eq_error_iff`).
-/
import TableApi.Proofs.Find.Identifiers

namespace TableApi.Filter

open Json

-- ================================================================== rules

/-- A rule that takes a lower and an upper bound. -/
def Rule.IsRange (r : Rule) : Prop := r.operator = .between ∨ r.operator = .notBetween

/-- The value is a list of two bounds, whatever these are. -/
def Rule.HasBounds (r : Rule) : Prop := ∃ low high, r.value = some (.array [low, high])

/-- The rule is in order. -/
structure Rule.Sound (r : Rule) : Prop where
  field : IsPlainName r.field
  bounds : r.IsRange → r.HasBounds

/-- What a rule is refused for. Its field comes first. -/
inductive Rule.Offends (r : Rule) : FilterError → Prop where
  | field : ¬ IsPlainName r.field → r.Offends (.invalidField r.field)
  | bounds : IsPlainName r.field → r.IsRange → ¬ r.HasBounds →
      r.Offends (.invalidRange r.field r.operator)

section Rules

variable {c : Char} {field : String} {r : Rule} {e : FilterError}

theorem isIdentifierChar_of_isAlphanum (h : c.isAlphanum = true ∨ c = '_') :
    isIdentifierChar c = true := by
  rw [isIdentifierChar, decide_eq_true_eq]
  rcases h with halphanum | hunderscore
  · have hkinds : (c.isUpper || c.isLower || c.isDigit) = true := halphanum
    rw [Bool.or_eq_true, Bool.or_eq_true] at hkinds
    rcases hkinds with (hupper | hlower) | hdigit
    · exact .inl (of_decide_eq_true hupper)
    · obtain ⟨hlow, hhigh⟩ := Bool.and_eq_true_iff.1 hlower
      exact .inr (.inl ⟨of_decide_eq_true hlow, of_decide_eq_true hhigh⟩)
    · obtain ⟨hlow, hhigh⟩ := Bool.and_eq_true_iff.1 hdigit
      exact .inr (.inr (.inl ⟨of_decide_eq_true hlow, of_decide_eq_true hhigh⟩))
  · exact .inr (.inr (.inr hunderscore))

/-- What is asked of a field is that it is a plain name. -/
theorem isIdentifier_iff : isIdentifier field = true ↔ IsPlainName field := by
  refine ⟨isPlainName_of_isIdentifier, fun h => ?_⟩
  have hne : field.isEmpty = false := by
    rw [← Bool.not_eq_true, String.isEmpty_iff]
    exact h.1
  rw [isIdentifier, hne, Bool.not_false, Bool.true_and, List.all_eq_true]
  exact fun c hc => isIdentifierChar_of_isAlphanum (h.2 c hc)

/-- The condition of a range needs two bounds. -/
theorem range_eq_error_iff (negated : Bool) :
    (match r.value.getD .null with
      | .array [low, high] => .ok (.between r.field low high negated)
      | _ => .error (.invalidRange r.field r.operator) : Except FilterError Condition) = .error e
      ↔ ¬ r.HasBounds ∧ e = .invalidRange r.field r.operator := by
  split
  case h_1 low high hvalue =>
    have hbounds : r.HasBounds := by
      refine ⟨low, high, ?_⟩
      cases hgiven : r.value with
      | none => rw [hgiven] at hvalue; cases hvalue
      | some v => rw [hgiven] at hvalue; exact congrArg some hvalue
    exact ⟨nofun, fun h => absurd hbounds h.1⟩
  case h_2 hother =>
    have hnone : ¬ r.HasBounds := by
      rintro ⟨low, high, hvalue⟩
      exact hother low high (by rw [hvalue]; rfl)
    exact ⟨fun h => ⟨hnone, (Except.error.inj h).symm⟩, fun h => congrArg Except.error h.2.symm⟩

/-- A rule with a good field is refused only as a range without two
bounds. -/
theorem condition_eq_error_iff :
    r.condition = .error e
      ↔ r.IsRange ∧ ¬ r.HasBounds ∧ e = .invalidRange r.field r.operator := by
  by_cases hrange : r.IsRange
  · rw [and_iff_right hrange, ← range_eq_error_iff (r.operator == .notBetween)]
    unfold Rule.condition
    rcases hrange with hbetween | hbetween
    · rw [hbetween]; rfl
    · rw [hbetween]; rfl
  · refine ⟨fun h => ?_, fun h => absurd h.1 hrange⟩
    unfold Rule.condition at h
    dsimp only at h
    split at h
    case h_17 hbetween => exact absurd (.inl hbetween) hrange
    case h_18 hbetween => exact absurd (.inr hbetween) hrange
    all_goals cases h

end Rules

-- ================================================================ refusals

/-- The error of what fails. -/
def refusal? {ε α : Type} : Except ε α → Option ε
  | .ok _ => none
  | .error e => some e

section Refusals

variable {ε α : Type} {a : Except ε α} {e : ε}

theorem refusal?_eq_some_iff : refusal? a = some e ↔ a = .error e := by
  cases a with
  | ok x => exact ⟨nofun, nofun⟩
  | error e' =>
      exact ⟨fun h => congrArg Except.error (Option.some.inj h),
        fun h => congrArg some (Except.error.inj h)⟩

theorem refusal?_eq_none_iff : refusal? a = none ↔ ∃ x, a = .ok x := by
  cases a with
  | ok x => exact ⟨fun _ => ⟨x, rfl⟩, fun _ => rfl⟩
  | error e => exact ⟨nofun, nofun⟩

end Refusals

/-- A rule is refused for what it offends against. -/
theorem refusal?_rule_eq_some_iff {r : Rule} {e : FilterError} :
    refusal? r.compile = some e ↔ r.Offends e := by
  rw [refusal?_eq_some_iff]
  by_cases hfield : isIdentifier r.field = true
  · have hplain := isIdentifier_iff.1 hfield
    rw [Rule.compile_of_isIdentifier hfield, condition_eq_error_iff]
    constructor
    · rintro ⟨hrange, hbounds, rfl⟩
      exact .bounds hplain hrange hbounds
    · intro h
      cases h with
      | field hnot => exact absurd hplain hnot
      | bounds _ hrange hbounds => exact ⟨hrange, hbounds, rfl⟩
  · have hnot := mt isIdentifier_iff.2 hfield
    rw [Rule.compile_of_not_isIdentifier hfield]
    constructor
    · intro h
      obtain rfl := Except.error.inj h
      exact .field hnot
    · intro h
      cases h with
      | field _ => rfl
      | bounds hplain _ _ => exact absurd hplain hnot

/-- A rule is accepted exactly if it is in order. -/
theorem refusal?_rule_eq_none_iff {r : Rule} : refusal? r.compile = none ↔ r.Sound := by
  rw [Option.eq_none_iff_forall_ne_some]
  simp only [ne_eq, refusal?_rule_eq_some_iff]
  constructor
  · intro h
    have hfield : IsPlainName r.field := by
      by_contra hnot
      exact h _ (.field hnot)
    refine ⟨hfield, fun hrange => ?_⟩
    by_contra hbounds
    exact h _ (.bounds hfield hrange hbounds)
  · rintro ⟨hfield, hbounds⟩ e h
    cases h with
    | field hnot => exact hnot hfield
    | bounds _ hrange hnone => exact hnone (hbounds hrange)

mutual

/-- A tree is refused for the first of its rules that is refused. -/
theorem Node.refusal?_compile :
    ∀ node : Node, refusal? node.compile = node.leaves.findSome? fun r => refusal? r.compile
  | .rule r => by
      rw [Node.compile, Node.leaves, List.findSome?_singleton]
  | .group combinator negate rules => by
      rw [Node.compile, Node.leaves, ← refusal?_compileAll rules]
      cases compileAll rules <;> rfl

theorem refusal?_compileAll :
    ∀ nodes : List Node,
      refusal? (compileAll nodes) = (leavesAll nodes).findSome? fun r => refusal? r.compile
  | [] => rfl
  | node :: nodes => by
      rw [leavesAll, List.findSome?_append, ← Node.refusal?_compile node,
        ← refusal?_compileAll nodes, compileAll]
      cases node.compile with
      | error e => rfl
      | ok c => cases compileAll nodes <;> rfl

end

/-- A filter is accepted exactly if every rule in it, at any depth, has a
plain field and, if it is a range, two bounds. Otherwise it is refused for
the first rule from the left that offends, and for the field of that rule
before its range. -/
theorem refused_for_first_offending_rule (g : Group) :
    ((∃ c, g.compile = .ok c) ↔ ∀ r ∈ g.toNode.leaves, r.Sound)
      ∧ ∀ e, g.compile = .error e
        ↔ ∃ before r after, g.toNode.leaves = before ++ r :: after
            ∧ (∀ earlier ∈ before, earlier.Sound) ∧ r.Offends e := by
  have hfirst : refusal? g.compile = g.toNode.leaves.findSome? fun r => refusal? r.compile :=
    Node.refusal?_compile g.toNode
  refine ⟨?_, fun e => ?_⟩
  · rw [← refusal?_eq_none_iff, hfirst, List.findSome?_eq_none_iff]
    simp only [refusal?_rule_eq_none_iff]
  · rw [← refusal?_eq_some_iff, hfirst, List.findSome?_eq_some_iff]
    simp only [refusal?_rule_eq_some_iff, refusal?_rule_eq_none_iff]
    constructor
    · rintro ⟨before, r, after, hleaves, hoffends, hsound⟩
      exact ⟨before, r, after, hleaves, hsound, hoffends⟩
    · rintro ⟨before, r, after, hleaves, hsound, hoffends⟩
      exact ⟨before, r, after, hleaves, hoffends, hsound⟩

/-- The rule that stands deeper, but further to the left, is reported. -/
example :
    Group.compile (.allOf
      [.rule ⟨"name", .equals, some (.string "x")⟩,
        .group .or true [.rule ⟨"age", .between, some (.array [.int 1])⟩],
        .rule ⟨"x y", .isNull, none⟩])
      = .error (.invalidRange "age" .between) := rfl

end TableApi.Filter
