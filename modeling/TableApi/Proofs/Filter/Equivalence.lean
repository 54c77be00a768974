/-
Filters that say the same of every row, and filters that say the opposite.

A filter can be written in many ways. A group may stand in a group with
the same combinator or have its rules spliced into it, rules may come in
any order, and a negation may stand in front of a group or be carried to
its members. Which way a client has chosen decides neither whether the
filter is accepted nor which rows are true, unknown and false to it.

# From trees to lists of truth values

What a tree says of a row is its meaning, and that is built from the
meanings of its members (`Node.meaning?`). So two trees are compared by
what their groups make of the truth values of the members
(`turns_of_meaning?`), and each law is a law of conjunctions and
disjunctions of lists: that they do not depend on the order of the list or
on how it is cut, for regrouping, and that negation exchanges them. An
empty group is no such conjunction: it is true even if it is negated. So
it can be neither spliced nor negated.
-/
import Mathlib.Data.List.Perm.Basic
import Mathlib.Logic.Relation
import TableApi.Proofs.Condition.Comparison
import TableApi.Proofs.Filter.Meaning

namespace TableApi.Filter

open Json

-- ================================================== filters side by side

/-- The second filter is accepted if and only if the first one is, and what
it says of a row is what `turn` makes of what the first one says. -/
def Turns (turn : Truth → Truth) (a b : Except FilterError Condition) : Prop :=
  (a.isOk = true ↔ b.isOk = true)
    ∧ ∀ c d, a = .ok c → b = .ok d → ∀ row, d.eval row = turn (c.eval row)

/-- Accepted alike, and with the same truth value on every row. -/
def Agree (a b : Except FilterError Condition) : Prop := Turns id a b

/-- Accepted alike, and on every row the one is true where the other is
false and unknown where it is unknown. -/
def Oppose (a b : Except FilterError Condition) : Prop := Turns Truth.not a b

/-- Accepted filters turn into each other if their conditions do on every
row. -/
theorem turns_ok {turn : Truth → Truth} {c d : Condition}
    (h : ∀ row, d.eval row = turn (c.eval row)) : Turns turn (.ok c) (.ok d) := by
  refine ⟨Iff.rfl, ?_⟩
  rintro _ _ ⟨⟩ ⟨⟩
  exact h

/-- Filters that are refused do so in any case. -/
theorem turns_error {turn : Truth → Truth} (e e' : FilterError) :
    Turns turn (.error e) (.error e') := by
  refine ⟨Iff.rfl, ?_⟩
  rintro _ _ ⟨⟩

/-- Filters are compared by their truth values, where a filter that is
refused has none. -/
theorem turns_of_toOption {turn : Truth → Truth} :
    ∀ {a b : Except FilterError Condition},
      (∀ row, b.toOption.map (·.eval row) = (a.toOption.map (·.eval row)).map turn) →
      Turns turn a b
  | .error e, .error e', _ => turns_error e e'
  | .error _, .ok _, h => nomatch h .empty
  | .ok _, .error _, h => nomatch h .empty
  | .ok _, .ok _, h => turns_ok fun row => Option.some.inj (h row)

/-- Trees are compared by their meanings. -/
theorem turns_of_meaning? {turn : Truth → Truth} {a b : Node}
    (h : ∀ row, b.meaning? row = (a.meaning? row).map turn) : Turns turn a.compile b.compile :=
  turns_of_toOption (by simpa only [meaning?_eq] using h)

-- ============================================================ regrouping

/-- One step of regrouping, anywhere in a tree: the rules of a group that
is not negated and not empty are spliced into a group around it that has
its combinator, or the rules of a group are put in another order. -/
inductive Node.Regroups : Node → Node → Prop
  | splice {combinator negate} {before inner after : List Node} (hinner : inner ≠ []) :
      Regroups (.group combinator negate (before ++ .group combinator false inner :: after))
        (.group combinator negate (before ++ inner ++ after))
  | reorder {combinator negate} {rules rules' : List Node} (hrules : rules.Perm rules') :
      Regroups (.group combinator negate rules) (.group combinator negate rules')
  | within {combinator negate} {before after : List Node} {node node' : Node}
      (hnode : Regroups node node') :
      Regroups (.group combinator negate (before ++ node :: after))
        (.group combinator negate (before ++ node' :: after))

/-- Joining the members of a part first makes no difference. -/
theorem Combinator.joined_splice (combinator : Combinator) (ts us vs : List Truth) :
    combinator.joined (ts ++ combinator.joined us :: vs) = combinator.joined (ts ++ us ++ vs) := by
  cases combinator with
  | and =>
      show Truth.all (ts ++ Truth.all us :: vs) = Truth.all (ts ++ us ++ vs)
      rw [Truth.all_append, Truth.all_append, Truth.all_append, Truth.and_assoc]
      rfl
  | or =>
      show Truth.any (ts ++ Truth.any us :: vs) = Truth.any (ts ++ us ++ vs)
      rw [Truth.any_append, Truth.any_append, Truth.any_append, Truth.or_assoc]
      rfl

/-- A group in place of its rules has their truth value. -/
theorem groupTruth_splice (combinator : Combinator) (negate : Bool) (ts : List Truth)
    {us : List Truth} (hus : us ≠ []) (vs : List Truth) :
    groupTruth combinator negate (ts ++ groupTruth combinator false us :: vs)
      = groupTruth combinator negate (ts ++ us ++ vs) := by
  have hspliced : ts ++ us ++ vs ≠ [] := by simp [hus]
  rw [groupTruth_of_ne_nil hus, groupTruth_of_ne_nil (by simp), groupTruth_of_ne_nil hspliced]
  exact congrArg (Truth.negateIf negate) (combinator.joined_splice ts us vs)

/-- The truth value of a group does not depend on the order of its rules. -/
theorem groupTruth_perm (combinator : Combinator) (negate : Bool) {ts us : List Truth}
    (h : ts.Perm us) : groupTruth combinator negate ts = groupTruth combinator negate us := by
  by_cases hts : ts = []
  · subst hts
    rw [h.nil_eq]
  · have hus : us ≠ [] := fun hus => hts (hus ▸ h).eq_nil
    rw [groupTruth_of_ne_nil hts, groupTruth_of_ne_nil hus]
    cases combinator with
    | and => exact congrArg (Truth.negateIf negate) (Truth.all_perm h)
    | or => exact congrArg (Truth.negateIf negate) (Truth.any_perm h)

variable {row : Row}

/-- Nodes behind nodes have their meanings in that order. -/
theorem meaningAll?_append (nodes nodes' : List Node) :
    meaningAll? row (nodes ++ nodes') = (meaningAll? row nodes).bind fun ts =>
      (meaningAll? row nodes').map fun us => ts ++ us := by
  induction nodes with
  | nil => simp [meaningAll?]
  | cons node nodes ih =>
      rw [List.cons_append, meaningAll?, meaningAll?, ih]
      cases node.meaning? row with
      | none => rfl
      | some t =>
          cases meaningAll? row nodes with
          | none => rfl
          | some ts => cases meaningAll? row nodes' <;> rfl

/-- Nodes have meanings if each has one. -/
theorem meaningAll?_eq_some_iff {nodes : List Node} {ts : List Truth} :
    meaningAll? row nodes = some ts
      ↔ List.Forall₂ (fun node t => node.meaning? row = some t) nodes ts := by
  induction nodes generalizing ts with
  | nil => simp [meaningAll?, eq_comm]
  | cons node nodes ih =>
      simp only [meaningAll?, Option.bind_eq_bind, Option.bind_eq_some_iff, ih,
        List.forall₂_cons_left_iff]
      constructor
      · rintro ⟨t, ht, us, hus, ⟨⟩⟩
        exact ⟨t, us, ht, hus, rfl⟩
      · rintro ⟨t, us, ht, hus, rfl⟩
        exact ⟨t, ht, us, hus, rfl⟩

/-- The same rules in another order have the same truth values in another
order. -/
theorem exists_perm_of_meaningAll? {nodes nodes' : List Node} (h : nodes.Perm nodes')
    {ts : List Truth} (hs : meaningAll? row nodes = some ts) :
    ∃ us, meaningAll? row nodes' = some us ∧ us.Perm ts := by
  obtain ⟨us, hus, hperm⟩ := List.perm_comp_forall₂ h.symm (meaningAll?_eq_some_iff.1 hs)
  exact ⟨us, meaningAll?_eq_some_iff.2 hus, hperm⟩

/-- The meaning of a group does not depend on the order of its rules. -/
theorem meaning?_reorder (combinator : Combinator) (negate : Bool) {rules rules' : List Node}
    (h : rules.Perm rules') :
    (Node.group combinator negate rules).meaning? row
      = (Node.group combinator negate rules').meaning? row := by
  rw [Node.meaning?, Node.meaning?]
  cases hs : meaningAll? row rules with
  | some ts =>
      obtain ⟨us, hus, hperm⟩ := exists_perm_of_meaningAll? h hs
      rw [hus]
      exact congrArg some (groupTruth_perm combinator negate hperm).symm
  | none =>
      cases hs' : meaningAll? row rules' with
      | none => rfl
      | some us =>
          obtain ⟨ts, hts, -⟩ := exists_perm_of_meaningAll? h.symm hs'
          rw [hs] at hts
          cases hts

/-- One node or more has one truth value or more. -/
theorem ne_nil_of_meaningAll? {nodes : List Node} (h : nodes ≠ []) {ts : List Truth}
    (hs : meaningAll? row nodes = some ts) : ts ≠ [] := by
  rintro rfl
  exact h (List.forall₂_nil_right_iff.1 (meaningAll?_eq_some_iff.1 hs))

/-- The rules of a plain group mean the same among those around it. -/
theorem meaning?_splice (combinator : Combinator) (negate : Bool) (before : List Node)
    {inner : List Node} (hinner : inner ≠ []) (after : List Node) :
    (Node.group combinator negate (before ++ .group combinator false inner :: after)).meaning? row
      = (Node.group combinator negate (before ++ inner ++ after)).meaning? row := by
  rw [Node.meaning?, Node.meaning?, List.append_assoc, meaningAll?_append, meaningAll?_append,
    meaningAll?_append, meaningAll?, Node.meaning?]
  cases meaningAll? row before with
  | none => rfl
  | some ts =>
      cases hus : meaningAll? row inner with
      | none => rfl
      | some us =>
          cases meaningAll? row after with
          | none => rfl
          | some vs =>
              have hne := ne_nil_of_meaningAll? hinner hus
              have hsplice := groupTruth_splice combinator negate ts hne vs
              rw [List.append_assoc] at hsplice
              exact congrArg some hsplice

/-- A step of regrouping keeps the meaning of the tree. -/
theorem meaning?_regroups {a b : Node} (h : a.Regroups b) : a.meaning? row = b.meaning? row := by
  induction h with
  | splice hinner => exact meaning?_splice _ _ _ hinner _
  | reorder hrules => exact meaning?_reorder _ _ hrules
  | within _ ih =>
      rw [Node.meaning?, Node.meaning?, meaningAll?_append, meaningAll?_append, meaningAll?,
        meaningAll?, ih]

/-- Any number of steps, forth and back, keeps it. -/
theorem meaning?_regrouped {a b : Node} (h : Relation.EqvGen Node.Regroups a b) :
    a.meaning? row = b.meaning? row := by
  induction h with
  | rel _ _ hstep => exact meaning?_regroups hstep
  | refl _ => rfl
  | symm _ _ _ ih => exact ih.symm
  | trans _ _ _ _ _ ih ih' => exact ih.trans ih'

/-- Filters that come from each other by regrouping are accepted alike, and
have the same truth value on every row. -/
theorem regrouped_filters_agree {g g' : Group}
    (h : Relation.EqvGen Node.Regroups g.toNode g'.toNode) : Agree g.compile g'.compile :=
  turns_of_meaning? fun row => by
    rw [meaning?_regrouped h, Option.map_id]
    rfl

/-- Groups of `or` in each other and of `and` in each other, beside an empty
group: of the nesting one group of `and` is left, and the rules have
changed places. -/
theorem regrouped_nested_groups :
    let named : Node := .rule ⟨"name", .equals, some (.string "Ada")⟩
    let unread : Node := .rule ⟨"read_at", .isNull, none⟩
    let listed : Node := .rule ⟨"age", .oneOf, some (.array [.int 1, .null])⟩
    let every : Node := .group .and true []
    let flat : Node := .group .and false [unread, listed, named]
    let nested : Node := .group .and false [unread, .group .and false [listed, named]]
    let g : Group := ⟨.or, true, [.group .or false [named, nested], every]⟩
    let g' : Group := ⟨.or, true, [every, flat, named]⟩
    Relation.EqvGen Node.Regroups g.toNode g'.toNode
      ∧ g.compile.isOk = true
      ∧ Agree g.compile g'.compile := by
  intro named unread listed every flat nested g g'
  have hnested : Node.Regroups nested flat :=
    @Node.Regroups.splice .and false [unread] [listed, named] [] (by simp)
  have hwithin : Node.Regroups g.toNode (.group .or true [.group .or false [named, flat], every]) :=
    @Node.Regroups.within .or true [] [every] _ _
      (@Node.Regroups.within .or false [named] [] _ _ hnested)
  have houter : Node.Regroups (.group .or true [.group .or false [named, flat], every])
      (.group .or true [named, flat, every]) :=
    @Node.Regroups.splice .or true [] [named, flat] [every] (by simp)
  have horder : Node.Regroups (.group .or true [named, flat, every]) g'.toNode :=
    .reorder (List.reverse_perm [every, flat, named])
  have h : Relation.EqvGen Node.Regroups g.toNode g'.toNode :=
    .trans _ _ _ (.rel _ _ hwithin) (.trans _ _ _ (.rel _ _ houter) (.rel _ _ horder))
  exact ⟨h, by decide +kernel, regrouped_filters_agree h⟩

-- ============================================================== negation

/-- The combinator that negation makes of a combinator. -/
def Combinator.dual : Combinator → Combinator
  | and => or
  | or => and

/-- A member of a group, in a negated group of its own. -/
def Node.negated (node : Node) : Node := (Group.allOf [node]).negated.toNode

/-- Operators of which the second asks for what the first does not. -/
def Operator.opposites : List (Operator × Operator) :=
  [(equals, notEquals), (greater, lessEquals), (less, greaterEquals), (contains, notContains),
    (isNull, isNotNull), (oneOf, notOneOf), (between, notBetween)]

/-- A group that has members is negated by its flag. -/
theorem meaning?_toggle (combinator : Combinator) (negate : Bool) {rules : List Node}
    (h : rules ≠ []) :
    (Node.group combinator (!negate) rules).meaning? row
      = ((Node.group combinator negate rules).meaning? row).map Truth.not := by
  rw [Node.meaning?, Node.meaning?]
  cases hs : meaningAll? row rules with
  | none => rfl
  | some ts =>
      have hne := ne_nil_of_meaningAll? h hs
      rw [Option.map_some, Option.map_some, Option.map_some, groupTruth_of_ne_nil hne,
        groupTruth_of_ne_nil hne, Truth.negateIf_not]

/-- In a negated group of its own a member means the opposite. -/
theorem meaning?_negated (node : Node) :
    node.negated.meaning? row = (node.meaning? row).map Truth.not := by
  have hgroup : (Node.group .and false [node]).meaning? row = node.meaning? row := by
    rw [Node.meaning?, meaningAll?, meaningAll?]
    cases node.meaning? row with
    | none => rfl
    | some t => cases t <;> rfl
  rw [← hgroup]
  exact meaning?_toggle .and false (List.cons_ne_nil _ _)

/-- In negated groups of their own members mean the opposite. -/
theorem meaningAll?_negated (nodes : List Node) :
    meaningAll? row (nodes.map Node.negated)
      = (meaningAll? row nodes).map (List.map Truth.not) := by
  induction nodes with
  | nil => rfl
  | cons node nodes ih =>
      rw [List.map_cons, meaningAll?, meaningAll?, ih, meaning?_negated]
      cases node.meaning? row with
      | none => rfl
      | some t => cases meaningAll? row nodes <;> rfl

/-- A negation is carried to the members, and the combinator becomes the
other one; an empty group is true on both sides. -/
theorem groupTruth_dual (combinator : Combinator) (ts : List Truth) :
    groupTruth combinator.dual false (ts.map Truth.not) = groupTruth combinator true ts := by
  by_cases h : ts = []
  · subst h
    cases combinator <;> rfl
  · have hmap : ts.map Truth.not ≠ [] := by simpa using h
    rw [groupTruth_of_ne_nil hmap, groupTruth_of_ne_nil h]
    cases combinator with
    | and => exact (Truth.not_all ts).symm
    | or => exact (Truth.not_any ts).symm

/-- A negated group means what the dual group of its negated members does.
-/
theorem meaning?_dual (combinator : Combinator) (rules : List Node) :
    (Node.group combinator.dual false (rules.map Node.negated)).meaning? row
      = (Node.group combinator true rules).meaning? row := by
  rw [Node.meaning?, Node.meaning?, meaningAll?_negated]
  cases meaningAll? row rules with
  | none => rfl
  | some ts => exact congrArg some (groupTruth_dual combinator ts)

/-- Opposite operators make opposite conditions. -/
theorem oppose_condition {p : Operator × Operator} (hp : p ∈ Operator.opposites) (field : String)
    (value : Option Value) :
    Oppose (Rule.mk field p.1 value).condition (Rule.mk field p.2 value).condition := by
  simp only [Operator.opposites, List.mem_cons, List.not_mem_nil, or_false] at hp
  rcases hp with rfl | rfl | rfl | rfl | rfl | rfl | rfl
  · exact turns_ok fun _ => Condition.compareTruth_opposite .eq _ _
  · exact turns_ok fun _ => Condition.compareTruth_opposite .gt _ _
  · exact turns_ok fun _ => Condition.compareTruth_opposite .lt _ _
  -- The others make one condition and its negated form.
  · exact turns_ok fun _ => rfl
  · exact turns_ok fun _ => rfl
  · exact turns_ok fun _ => rfl
  · -- A range is accepted if there are two bounds, negated or not.
    unfold Rule.condition
    dsimp only
    split
    · exact turns_ok fun _ => rfl
    · exact turns_error _ _

/-- What a rule says of a row it says behind the check of its field. -/
theorem turns_compile {turn : Truth → Truth} {r r' : Rule} (hfield : r.field = r'.field)
    (h : Turns turn r.condition r'.condition) : Turns turn r.compile r'.compile := by
  by_cases hr : isIdentifier r.field = true
  · rw [Rule.compile_of_isIdentifier hr, Rule.compile_of_isIdentifier (hfield ▸ hr)]
    exact h
  · rw [Rule.compile_of_not_isIdentifier hr, Rule.compile_of_not_isIdentifier (hfield ▸ hr)]
    exact turns_error _ _

/-- A filter with members is accepted with its negation and has the
opposite truth value on every row, and negated twice it is itself; a
negation in front of a group is the same as one in front of each member
and the other combinator; and two rules with opposite operators are
accepted together and have opposite truth values. -/
theorem negations_are_opposites :
    (∀ g : Group, g.rules ≠ [] → Oppose g.compile g.negated.compile ∧ g.negated.negated = g)
      ∧ (∀ (combinator : Combinator) (rules : List Node),
          Agree (Group.mk combinator true rules).compile
            (Group.mk combinator.dual false (rules.map Node.negated)).compile)
      ∧ ∀ p ∈ Operator.opposites, ∀ (field : String) (value : Option Value),
          Oppose (Rule.mk field p.1 value).compile (Rule.mk field p.2 value).compile := by
  refine ⟨fun g hg => ⟨?_, ?_⟩, fun combinator rules => ?_, fun p hp field value => ?_⟩
  · exact turns_of_meaning? fun row => meaning?_toggle g.combinator g.negate hg
  · obtain ⟨combinator, negate, rules⟩ := g
    exact congrArg (Group.mk combinator · rules) (Bool.not_not negate)
  · refine turns_of_meaning? fun row => ?_
    rw [Option.map_id]
    exact meaning?_dual combinator rules
  · exact turns_compile rfl (oppose_condition hp field value)

/-- A group of a range that has null for a bound, and of an empty group. -/
theorem negations_of_open_range :
    let value : Option Value := some (.array [.int 1, .null])
    let members : List Node := [.rule ⟨"age", .between, value⟩, .group .or true []]
    let g : Group := ⟨.and, true, members⟩
    g.rules ≠ []
      ∧ Oppose g.compile g.negated.compile
      ∧ Agree g.compile (Group.mk .or false (members.map Node.negated)).compile
      ∧ (.between, .notBetween) ∈ Operator.opposites
      ∧ Oppose (Rule.mk "age" .between value).compile
          (Rule.mk "age" .notBetween value).compile := by
  intro value members g
  have hrules : g.rules ≠ [] := List.cons_ne_nil _ _
  have hpair : (Operator.between, Operator.notBetween) ∈ Operator.opposites := by decide
  obtain ⟨hgroup, hmembers, hoperators⟩ := negations_are_opposites
  exact ⟨hrules, (hgroup g hrules).1, hmembers .and members, hpair,
    hoperators _ hpair "age" value⟩

end TableApi.Filter
