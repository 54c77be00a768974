/-
What an object in a filter is read as.

A member of a group is tried as a group first and as a rule only if that
fails. What an object comes to depends on what stands under the names of
a group (`FormsGroup`) and of a rule (`FormsRule`), each name once at
most: it is read as the group that it forms, and as the rule that it forms
only if it forms no group (`ofDocument?_object_iff`). A group may lack all
its fields but the combinator, so with one a rule forms a group as well.
-/
import Mathlib.Data.List.Forall2
import TableApi.Filter.Wire
import TableApi.Proofs.Json.Record

namespace TableApi.Filter

open Json Record

-- =============================================================== objects

/-- The object with these fields is a group: its combinator is given, its
negation may be, and so may be its rules, which are members. None of them
is given twice. -/
structure FormsGroup (fields : List (FieldKey × Document)) (combinator : Combinator)
    (negate : Bool) (rules : List Node) : Prop where
  keys : ∀ field ∈ fields, field.1.isSome = true
  combinator : ∃ d, under ["combinator"] fields = [d] ∧ Combinator.ofDocument? d = some combinator
  negate : (under ["negate", "not"] fields = [] ∧ negate = false)
    ∨ under ["negate", "not"] fields = [.bool negate]
  rules : (under ["rules"] fields = [] ∧ rules = [])
    ∨ ∃ items closed, under ["rules"] fields = [.array items closed]
      ∧ List.Forall₂ (fun d node => Node.ofDocument? d = some node) items rules

/-- The object with these fields is a rule: its field and its operator are
given and its value may be, and none of them is given twice. -/
structure FormsRule (fields : List (FieldKey × Document)) (r : Rule) : Prop where
  keys : ∀ field ∈ fields, field.1.isSome = true
  field : under ["field"] fields = [.string (some r.field)]
  operator : ∃ d, under ["operator"] fields = [d] ∧ Operator.ofDocument? d = some r.operator
  value : (under ["value"] fields = [] ∧ r.value = none)
    ∨ ∃ d, under ["value"] fields = [d] ∧ ruleValue? d = some r.value

/-- A document with the members it lists. -/
def toPart (d : Document) : Part := (d, Node.listedIn? d)

/-- The parts of fields are taken field by field. -/
theorem fieldParts_eq_map (fields : List (FieldKey × Document)) :
    fieldParts fields = fields.map fun field => (field.1, toPart field.2) := by
  induction fields with
  | nil => rfl
  | cons field rest ih =>
      obtain ⟨key, d⟩ := field
      rw [fieldParts, ih]
      rfl

/-- Those of items are taken item by item. -/
theorem itemParts_eq_map (items : List Document) :
    itemParts items = items.map toPart := by
  induction items with
  | nil => rfl
  | cons d rest ih =>
      rw [itemParts, ih]
      rfl

/-- Members are read if each is. -/
theorem ofDocuments?_eq_some_iff {items : List Document} {nodes : List Node} :
    Node.ofDocuments? items = some nodes
      ↔ List.Forall₂ (fun d node => Node.ofDocument? d = some node) items nodes := by
  induction items generalizing nodes with
  | nil =>
      rw [Node.ofDocuments?, Option.some.injEq, List.forall₂_nil_left_iff]
      exact eq_comm
  | cons d rest ih =>
      rw [Node.ofDocuments?, List.forall₂_cons_left_iff]
      constructor
      · intro h
        split at h
        · next node nodes' hnode hnodes =>
          exact ⟨node, nodes', hnode, ih.1 hnodes, (Option.some.inj h).symm⟩
        · cases h
      · rintro ⟨node, nodes', hnode, hnodes, rfl⟩
        rw [hnode, ih.2 hnodes]

/-- A document lists members if it is an array of them. -/
theorem listedIn?_eq_some_iff {d : Document} {nodes : List Node} :
    Node.listedIn? d = some nodes ↔ ∃ items closed, d = .array items closed
      ∧ List.Forall₂ (fun d node => Node.ofDocument? d = some node) items nodes := by
  cases d with
  | array items closed =>
      rw [Node.listedIn?, ofDocuments?_eq_some_iff]
      simp
  | _ => simp [Node.listedIn?]

theorem pairwise_groupNames : groupNames.Pairwise List.Disjoint := by
  simp [groupNames, List.Disjoint]

theorem pairwise_ruleNames : ruleNames.Pairwise List.Disjoint := by
  simp [ruleNames, List.Disjoint]

/-- What stands under a name of the parts stands under it in the object. -/
theorem under_fieldParts {names : List String} {fields : List (FieldKey × Document)}
    {part : Option Part} :
    under names (fieldParts fields) = part.toList
      ↔ ∃ d : Option Document, part = d.map toPart ∧ under names fields = d.toList := by
  rw [fieldParts_eq_map, under_map toPart]
  cases part with
  | none =>
      rw [Option.toList_none, List.map_eq_nil_iff]
      constructor
      · exact fun h => ⟨none, rfl, h⟩
      · rintro ⟨d, hd, h⟩
        rw [h, Option.map_eq_none_iff.1 hd.symm]
        rfl
  | some part =>
      rw [Option.toList_some, List.map_eq_singleton_iff]
      constructor
      · rintro ⟨d, h, rfl⟩
        exact ⟨some d, rfl, h⟩
      · rintro ⟨d, hd, h⟩
        obtain ⟨d, rfl, hpart⟩ := Option.map_eq_some_iff.1 hd.symm
        exact ⟨d, h, hpart⟩

/-- The parts of fields may be passed over if every key is text. -/
theorem passable_fieldParts {names : List (List String)} {fields : List (FieldKey × Document)} :
    Passable names (fun _ => true) (fieldParts fields)
      ↔ ∀ field ∈ fields, field.1.isSome = true := by
  rw [fieldParts_eq_map, Passable, List.forall_mem_map]
  simp [Option.isSome_iff_exists]

theorem toOption_eq_some_iff {α : Type} {x : Except Fault α} {a : α} :
    x.toOption = some a ↔ x = .ok a := by
  cases x <;> simp [Except.toOption]

/-- The parts of a record with three fields in an object. -/
theorem partsOfFields?_eq_some_iff {first second third : List String}
    (hnames : [first, second, third].Pairwise List.Disjoint)
    {fields : List (FieldKey × Document)} {a b c : Option Part} :
    partsOfFields? [first, second, third] (fieldParts fields) = some [a, b, c]
      ↔ (∀ field ∈ fields, field.1.isSome = true)
        ∧ under first (fieldParts fields) = a.toList ∧ under second (fieldParts fields) = b.toList
        ∧ under third (fieldParts fields) = c.toList := by
  rw [partsOfFields?, toOption_eq_some_iff, ofObject_three_eq_ok_iff hnames, passable_fieldParts]
  exact and_iff_right rfl

/-- Parts make a group if the first is a combinator, and the others may be
missing. -/
theorem groupOfParts?_eq_some_iff {parts : List (Option Part)} {node : Node} :
    groupOfParts? parts = some node
      ↔ ∃ first second third combinator negate rules, parts = [some first, second, third]
        ∧ node = .group combinator negate rules
        ∧ Combinator.ofDocument? first.1 = some combinator
        ∧ optional? false (fun part => part.1.bool?) second = some negate
        ∧ optional? [] (fun part => part.2) third = some rules := by
  constructor
  · intro h
    unfold groupOfParts? at h
    split at h
    · next first second third =>
      simp only [Option.bind_eq_bind, Option.bind_eq_some_iff, Option.pure_def,
        Option.some.injEq] at h
      obtain ⟨combinator, hcombinator, negate, hnegate, rules, hrules, rfl⟩ := h
      exact ⟨first, second, third, combinator, negate, rules, rfl, rfl, hcombinator, hnegate,
        hrules⟩
    · cases h
  · rintro ⟨first, second, third, combinator, negate, rules, rfl, rfl, hcombinator, hnegate,
      hrules⟩
    simp only [groupOfParts?, hcombinator, hnegate, hrules, Option.bind_eq_bind, Option.bind_some]
    rfl

/-- Parts make a rule if the first two are its field and its operator. -/
theorem ruleOfParts?_eq_some_iff {parts : List (Option Part)} {node : Node} :
    ruleOfParts? parts = some node
      ↔ ∃ first second third r, parts = [some first, some second, third] ∧ node = .rule r
        ∧ first.1.string? = some r.field ∧ Operator.ofDocument? second.1 = some r.operator
        ∧ optional? none (fun part => ruleValue? part.1) third = some r.value := by
  constructor
  · intro h
    unfold ruleOfParts? at h
    split at h
    · next first second third =>
      simp only [Option.bind_eq_bind, Option.bind_eq_some_iff, Option.pure_def,
        Option.some.injEq] at h
      obtain ⟨field, hfield, operator, hoperator, value, hvalue, rfl⟩ := h
      exact ⟨first, second, third, ⟨field, operator, value⟩, rfl, rfl, hfield, hoperator, hvalue⟩
    · cases h
  · rintro ⟨first, second, third, r, rfl, rfl, hfield, hoperator, hvalue⟩
    simp only [ruleOfParts?, hfield, hoperator, hvalue, Option.bind_eq_bind, Option.bind_some]
    rfl

section Objects

variable {fields : List (FieldKey × Document)} {closed : Bool} {node : Node}

/-- What may be missing has a value of its own then. -/
theorem optional?_eq_some_iff {α β : Type} {absent x : β} {read : α → Option β} {a : Option α} :
    optional? absent read a = some x
      ↔ (a = none ∧ x = absent) ∨ ∃ b, a = some b ∧ read b = some x := by
  cases a with
  | none => simp [optional?, eq_comm]
  | some b => simp [optional?]

/-- A part that has to be there is one document under its names. -/
theorem exists_required_iff {names : List String} {p : Document → Prop} :
    (∃ part : Part, under names (fieldParts fields) = [part] ∧ p part.1)
      ↔ ∃ d, under names fields = [d] ∧ p d := by
  constructor
  · rintro ⟨part, hpart, hp⟩
    rw [← Option.toList_some] at hpart
    obtain ⟨d, hd, hunder⟩ := under_fieldParts.1 hpart
    obtain ⟨d, rfl, rfl⟩ := Option.map_eq_some_iff.1 hd.symm
    exact ⟨d, hunder, hp⟩
  · rintro ⟨d, hunder, hp⟩
    exact ⟨toPart d, under_fieldParts.2 ⟨some d, rfl, hunder⟩, hp⟩

/-- One that may be missing is one document there, or none. -/
theorem exists_optional_iff {α : Type} {names : List String} {x : α} (absent : α)
    (read : Part → Option α) :
    (∃ part : Option Part, under names (fieldParts fields) = part.toList
        ∧ optional? absent read part = some x)
      ↔ (under names fields = [] ∧ x = absent)
        ∨ ∃ d, under names fields = [d] ∧ read (toPart d) = some x := by
  constructor
  · rintro ⟨part, hpart, hx⟩
    obtain ⟨d, rfl, hunder⟩ := under_fieldParts.1 hpart
    cases d with
    | none => exact .inl ⟨hunder, (Option.some.inj hx).symm⟩
    | some d => exact .inr ⟨d, hunder, hx⟩
  · rintro (⟨hunder, rfl⟩ | ⟨d, hunder, hx⟩)
    · exact ⟨none, under_fieldParts.2 ⟨none, rfl, hunder⟩, rfl⟩
    · exact ⟨some (toPart d), under_fieldParts.2 ⟨some d, rfl, hunder⟩, hx⟩

theorem bool?_eq_some_iff {d : Document} {b : Bool} : d.bool? = some b ↔ d = .bool b := by
  cases d <;> simp [Document.bool?]

theorem string?_eq_some_iff {d : Document} {s : String} :
    d.string? = some s ↔ d = .string (some s) := by
  cases d <;> simp [Document.string?]

/-- An object can be read as a group exactly if it forms one. -/
theorem groupOfFields_iff :
    (partsOfFields? groupNames (fieldParts fields)).bind groupOfParts? = some node
      ↔ ∃ combinator negate rules, node = .group combinator negate rules
        ∧ FormsGroup fields combinator negate rules := by
  rw [Option.bind_eq_some_iff]
  constructor
  · rintro ⟨parts, hparts, hgroup⟩
    obtain ⟨first, second, third, combinator, negate, rules, rfl, rfl, hcombinator, hnegate,
      hrules⟩ := groupOfParts?_eq_some_iff.1 hgroup
    obtain ⟨hkeys, hfirst, hsecond, hthird⟩ :=
      (partsOfFields?_eq_some_iff pairwise_groupNames).1 hparts
    refine ⟨combinator, negate, rules, rfl, hkeys,
      exists_required_iff.1 ⟨first, hfirst, hcombinator⟩,
      ((exists_optional_iff _ _).1 ⟨second, hsecond, hnegate⟩).imp_right ?_,
      ((exists_optional_iff _ _).1 ⟨third, hthird, hrules⟩).imp_right ?_⟩
    · rintro ⟨d, hunder, hd⟩
      have hbool : d = .bool negate := bool?_eq_some_iff.1 hd
      rwa [hbool] at hunder
    · rintro ⟨d, hunder, hd⟩
      obtain ⟨items, closed, rfl, hitems⟩ := listedIn?_eq_some_iff.1 hd
      exact ⟨items, closed, hunder, hitems⟩
  · rintro ⟨combinator, negate, rules, rfl, hforms⟩
    obtain ⟨first, hfirst, hcombinator⟩ := exists_required_iff.2 hforms.combinator
    obtain ⟨second, hsecond, hnegate⟩ :=
      (exists_optional_iff false fun part => part.1.bool?).2 <|
        hforms.negate.imp_right fun hunder => ⟨.bool negate, hunder, rfl⟩
    obtain ⟨third, hthird, hrules⟩ := (exists_optional_iff [] fun part => part.2).2 <|
      hforms.rules.imp_right fun ⟨items, closed, hunder, hitems⟩ =>
        ⟨.array items closed, hunder, listedIn?_eq_some_iff.2 ⟨items, closed, rfl, hitems⟩⟩
    refine ⟨[some first, second, third], ?_, groupOfParts?_eq_some_iff.2
      ⟨first, second, third, combinator, negate, rules, rfl, rfl, hcombinator, hnegate, hrules⟩⟩
    exact (partsOfFields?_eq_some_iff pairwise_groupNames).2 ⟨hforms.keys, hfirst, hsecond, hthird⟩

/-- An object can be read as a rule exactly if it forms one. -/
theorem ruleOfFields_iff :
    (partsOfFields? ruleNames (fieldParts fields)).bind ruleOfParts? = some node
      ↔ ∃ r, node = .rule r ∧ FormsRule fields r := by
  rw [Option.bind_eq_some_iff]
  constructor
  · rintro ⟨parts, hparts, hrule⟩
    obtain ⟨first, second, third, r, rfl, rfl, hfield, hoperator, hvalue⟩ :=
      ruleOfParts?_eq_some_iff.1 hrule
    obtain ⟨hkeys, hfirst, hsecond, hthird⟩ :=
      (partsOfFields?_eq_some_iff pairwise_ruleNames).1 hparts
    refine ⟨r, rfl, hkeys, ?_, exists_required_iff.1 ⟨second, hsecond, hoperator⟩,
      (exists_optional_iff _ _).1 ⟨third, hthird, hvalue⟩⟩
    obtain ⟨d, hunder, hd⟩ :=
      (exists_required_iff (p := fun d => d.string? = some r.field)).1 ⟨first, hfirst, hfield⟩
    rwa [string?_eq_some_iff.1 hd] at hunder
  · rintro ⟨r, rfl, hforms⟩
    obtain ⟨first, hfirst, hfield⟩ :=
      (exists_required_iff (p := fun d => d.string? = some r.field)).2
        ⟨.string (some r.field), hforms.field, rfl⟩
    obtain ⟨second, hsecond, hoperator⟩ := exists_required_iff.2 hforms.operator
    obtain ⟨third, hthird, hvalue⟩ :=
      (exists_optional_iff none fun part => ruleValue? part.1).2 hforms.value
    refine ⟨[some first, some second, third], ?_, ruleOfParts?_eq_some_iff.2
      ⟨first, second, third, r, rfl, rfl, hfield, hoperator, hvalue⟩⟩
    exact (partsOfFields?_eq_some_iff pairwise_ruleNames).2 ⟨hforms.keys, hfirst, hsecond, hthird⟩

/-- An object is read as the group that it forms, and as the rule that it
forms only if it forms no group. -/
theorem ofDocument?_object_iff :
    Node.ofDocument? (.object fields closed) = some node
      ↔ (∃ combinator negate rules, node = .group combinator negate rules
          ∧ FormsGroup fields combinator negate rules)
        ∨ ((∀ combinator negate rules, ¬ FormsGroup fields combinator negate rules)
          ∧ ∃ r, node = .rule r ∧ FormsRule fields r) := by
  rw [Node.ofDocument?, Option.or_eq_some_iff, groupOfFields_iff, ruleOfFields_iff]
  refine or_congr_right (and_congr_left fun _ => ?_)
  rw [Option.eq_none_iff_forall_ne_some]
  constructor
  · intro h combinator negate rules hforms
    exact h _ (groupOfFields_iff.2 ⟨combinator, negate, rules, rfl, hforms⟩)
  · intro h node' hnode
    obtain ⟨combinator, negate, rules, -, hforms⟩ := groupOfFields_iff.1 hnode
    exact h combinator negate rules hforms

/-- An object is read as a group exactly if it forms one. -/
theorem ofDocument?_eq_group_iff {combinator : Combinator} {negate : Bool} {rules : List Node} :
    Node.ofDocument? (.object fields closed) = some (.group combinator negate rules)
      ↔ FormsGroup fields combinator negate rules := by
  rw [ofDocument?_object_iff]
  constructor
  · rintro (⟨_, _, _, heq, hforms⟩ | ⟨-, r, heq, -⟩)
    · obtain ⟨rfl, rfl, rfl⟩ := Node.group.inj heq
      exact hforms
    · cases heq
  · exact fun hforms => .inl ⟨_, _, _, rfl, hforms⟩

/-- An object is read as a rule exactly if it forms one and forms no group.
-/
theorem ofDocument?_eq_rule_iff {r : Rule} :
    Node.ofDocument? (.object fields closed) = some (.rule r)
      ↔ FormsRule fields r
        ∧ ∀ combinator negate rules, ¬ FormsGroup fields combinator negate rules := by
  rw [ofDocument?_object_iff]
  constructor
  · rintro (⟨_, _, _, heq, -⟩ | ⟨hnone, r', heq, hforms⟩)
    · cases heq
    · obtain rfl := Node.rule.inj heq
      exact ⟨hforms, hnone⟩
  · exact fun ⟨hforms, hnone⟩ => .inr ⟨hnone, r, rfl, hforms⟩

end Objects

end TableApi.Filter
