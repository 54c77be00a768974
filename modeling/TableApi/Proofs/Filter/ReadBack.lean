/-
Reading a filter back from its own JSON form.

A member that is read is tried as a group first, and a group may lack all
its fields but one. What keeps the two apart is that field: a group that is
written has its combinator and a rule has none, whatever its value is. So
reading takes a written tree apart as it was put together, and nothing but
the values of the rules can come back changed or be refused
(`Node.ofDocument?_toValue`). The value of a rule comes back if it is
plain, null as no value at all (`reread?_eq_some_iff`).
-/
import TableApi.Filter.Compile
import TableApi.Filter.Wire
import TableApi.Proofs.Json.ReadBack

namespace TableApi.Filter

open Json

-- ============================================== the values in a filter tree

mutual

/-- The values of the rules, in order. -/
def Node.values : Node → List (Option Value)
  | .rule r => [r.value]
  | .group _ _ rules => nodesValues rules

def nodesValues : List Node → List (Option Value)
  | [] => []
  | node :: nodes => node.values ++ nodesValues nodes

end

mutual

/-- The tree with other values in its rules. -/
def Node.mapValues (f : Option Value → Option Value) : Node → Node
  | .rule r => .rule { r with value := f r.value }
  | .group combinator negate rules => .group combinator negate (mapNodes f rules)

def mapNodes (f : Option Value → Option Value) : List Node → List Node
  | [] => []
  | node :: nodes => node.mapValues f :: mapNodes f nodes

end

mutual

/-- The tree with other values in its rules, if each has one. -/
def Node.traverse? (f : Option Value → Option (Option Value)) : Node → Option Node
  | .rule r => (f r.value).map fun value => .rule { r with value }
  | .group combinator negate rules => (traverseNodes? f rules).map (.group combinator negate)

def traverseNodes? (f : Option Value → Option (Option Value)) : List Node → Option (List Node)
  | [] => some []
  | node :: nodes =>
      (node.traverse? f).bind fun first => (traverseNodes? f nodes).map (first :: ·)

end

namespace Group

def values (g : Group) : List (Option Value) := nodesValues g.rules

def mapValues (f : Option Value → Option Value) (g : Group) : Group :=
  { g with rules := mapNodes f g.rules }

def traverse? (f : Option Value → Option (Option Value)) (g : Group) : Option Group :=
  (traverseNodes? f g.rules).map fun rules => { g with rules }

end Group

section Traversal

variable {f : Option Value → Option (Option Value)} {g : Option Value → Option Value}

mutual

/-- A traversal comes to the tree with certain values exactly if it comes
to each of them. -/
theorem Node.traverse?_eq_some_mapValues_iff :
    ∀ n : Node, n.traverse? f = some (n.mapValues g) ↔ ∀ v ∈ n.values, f v = some (g v)
  | .rule r => by
      rw [Node.traverse?, Node.mapValues, Node.values, List.forall_mem_singleton]
      cases f r.value with
      | none => exact ⟨nofun, nofun⟩
      | some v => simp
  | .group combinator negate rules => by
      rw [Node.traverse?, Node.mapValues, Node.values, ← traverseNodes?_eq_some_mapNodes_iff rules]
      cases traverseNodes? f rules with
      | none => exact ⟨nofun, nofun⟩
      | some rules => simp

/-- A list is changed throughout if each value in it is. -/
theorem traverseNodes?_eq_some_mapNodes_iff :
    ∀ nodes : List Node, traverseNodes? f nodes = some (mapNodes g nodes)
      ↔ ∀ v ∈ nodesValues nodes, f v = some (g v)
  | [] => ⟨fun _ => List.forall_mem_nil _, fun _ => rfl⟩
  | node :: nodes => by
      rw [traverseNodes?, mapNodes, nodesValues, List.forall_mem_append,
        ← Node.traverse?_eq_some_mapValues_iff node, ← traverseNodes?_eq_some_mapNodes_iff nodes]
      cases node.traverse? f with
      | none => exact ⟨nofun, nofun⟩
      | some first =>
          cases traverseNodes? f nodes with
          | none => exact ⟨nofun, nofun⟩
          | some rest => simp

end

mutual

/-- A traversal changes values and nothing else. -/
theorem Node.mapValues_of_traverse? (value : Option Value) :
    ∀ {n m : Node}, n.traverse? f = some m →
      m.mapValues (fun _ => value) = n.mapValues fun _ => value
  | .rule r, m, h => by
      obtain ⟨v, -, rfl⟩ := Option.map_eq_some_iff.1 h
      rfl
  | .group combinator negate rules, m, h => by
      obtain ⟨others, hothers, rfl⟩ := Option.map_eq_some_iff.1 h
      rw [Node.mapValues, Node.mapValues, mapNodes_of_traverseNodes? value hothers]

/-- A change of values leaves the shape as it was. -/
theorem mapNodes_of_traverseNodes? (value : Option Value) :
    ∀ {nodes others : List Node}, traverseNodes? f nodes = some others →
      mapNodes (fun _ => value) others = mapNodes (fun _ => value) nodes
  | [], others, h => by
      obtain rfl : [] = others := Option.some.inj h
      rfl
  | node :: nodes, others, h => by
      obtain ⟨first, hfirst, h⟩ := Option.bind_eq_some_iff.1 h
      obtain ⟨rest, hrest, rfl⟩ := Option.map_eq_some_iff.1 h
      rw [mapNodes, mapNodes, Node.mapValues_of_traverse? value hfirst,
        mapNodes_of_traverseNodes? value hrest]

end

/-- A rule reads its value, and none as null. -/
theorem Rule.compile_congr {r : Rule} {value : Option Value}
    (h : value.getD .null = r.value.getD .null) : Rule.compile { r with value } = r.compile := by
  unfold Rule.compile Rule.condition
  dsimp only
  rw [h]

mutual

/-- A change among values that stand for the same leaves the condition of a
member as it was. -/
theorem Node.compile_mapValues (h : ∀ v : Option Value, (g v).getD .null = v.getD .null) :
    ∀ n : Node, (n.mapValues g).compile = n.compile
  | .rule r => by rw [Node.mapValues, Node.compile, Node.compile, Rule.compile_congr (h r.value)]
  | .group combinator negate rules => by
      rw [Node.mapValues, Node.compile, Node.compile, compileAll_mapNodes h rules]

/-- A change among values that stand for the same leaves conditions as they
were. -/
theorem compileAll_mapNodes (h : ∀ v : Option Value, (g v).getD .null = v.getD .null) :
    ∀ nodes : List Node, compileAll (mapNodes g nodes) = compileAll nodes
  | [] => rfl
  | node :: nodes => by
      rw [mapNodes, compileAll, compileAll, Node.compile_mapValues h node,
        compileAll_mapNodes h nodes]

end

/-- A change among values that stand for the same leaves the condition of a
filter as it was. -/
theorem Group.compile_mapValues (h : ∀ v : Option Value, (g v).getD .null = v.getD .null)
    (filter : Group) : (filter.mapValues g).compile = filter.compile :=
  Node.compile_mapValues h filter.toNode

/-- A filter is changed throughout if each of its values is. -/
theorem Group.traverse?_eq_some_mapValues_iff (filter : Group) :
    filter.traverse? f = some (filter.mapValues g) ↔ ∀ v ∈ filter.values, f v = some (g v) := by
  rw [Group.traverse?, Group.mapValues, Group.values, ← traverseNodes?_eq_some_mapNodes_iff]
  cases traverseNodes? f filter.rules with
  | none => exact ⟨nofun, nofun⟩
  | some rules => simp

/-- A change of values leaves its shape as it was. -/
theorem Group.mapValues_of_traverse? (value : Option Value) {filter other : Group}
    (h : filter.traverse? f = some other) :
    other.mapValues (fun _ => value) = filter.mapValues fun _ => value := by
  obtain ⟨rules, hrules, rfl⟩ := Option.map_eq_some_iff.1 h
  rw [Group.mapValues, Group.mapValues, mapNodes_of_traverseNodes? value hrules]

end Traversal

-- ================================================================== values

/-- Null as no value. -/
def withoutNull : Option Value → Option Value
  | some .null => none
  | v => v

/-- Null and no value stand for the same. -/
theorem getD_withoutNull (v : Option Value) : (withoutNull v).getD .null = v.getD .null := by
  unfold withoutNull
  split <;> rfl

/-- Two values that are no different without null are the same. -/
theorem eq_of_withoutNull_eq {v w : Value} (h : withoutNull (some v) = withoutNull (some w)) :
    v = w := by
  cases v <;> cases w <;> simp_all [withoutNull]

/-- What the value of a rule is read back as. -/
def reread? : Option Value → Option (Option Value)
  | none => some none
  | some v => ruleValue? (Document.ofValue v)

/-- A value is taken as it is read, null as no value. -/
theorem ruleValue?_of_value? {d : Document} {v : Value} (h : d.value? = some v) :
    ruleValue? d = some (withoutNull (some v)) := by
  unfold ruleValue? withoutNull
  rw [h]
  cases v <;> rfl

/-- A value comes back, null as no value, exactly if it is plain. -/
theorem reread?_eq_some_iff {value : Option Value} (h : ∀ v ∈ value, v.Ordered) :
    reread? value = some (withoutNull value) ↔ ∀ v ∈ value, v.Plain := by
  cases value with
  | none => exact ⟨fun _ => (fun _ hv => nomatch hv), fun _ => rfl⟩
  | some v =>
      have hmember : (∀ w ∈ some v, w.Plain) ↔ v.Plain := by simp
      rw [hmember, ← Document.value?_ofValue (h v rfl), reread?]
      refine ⟨fun hread => ?_, ruleValue?_of_value?⟩
      cases hvalue : (Document.ofValue v).value? with
      | none =>
          rw [ruleValue?, hvalue] at hread
          cases hread
      | some w =>
          rw [ruleValue?_of_value? hvalue] at hread
          exact congrArg some (eq_of_withoutNull_eq (Option.some.inj hread))

-- ================================================================= reading

/-- A combinator is read back from its tag. -/
theorem Combinator.ofDocument?_tag (combinator : Combinator) :
    Combinator.ofDocument? (.string (some combinator.tag)) = some combinator := by
  cases combinator <;> rfl

/-- An operator is read back from its tag. -/
theorem Operator.ofDocument?_tag (operator : Operator) :
    Operator.ofDocument? (.string (some operator.tag)) = some operator := by
  cases operator <;> decide

/-- The fields of a group that is written, in the order of their keys. -/
def groupFields (combinator : Combinator) (negate : Bool) (rules : List Node) :
    List (String × Value) :=
  [("combinator", .string combinator.tag), ("negate", .bool negate),
    ("rules", .array (nodeValues rules))]

/-- The fields of a rule that is written, in the order of their keys. -/
def ruleFields (r : Rule) : List (String × Value) :=
  [("field", .string r.field), ("operator", .string r.operator.tag)]
    ++ (r.value.map fun v => ("value", v)).toList

/-- A group is written with these fields. -/
theorem toValue_group (combinator : Combinator) (negate : Bool) (rules : List Node) :
    (Node.group combinator negate rules).toValue
      = .object (groupFields combinator negate rules) := by
  have hascending : Ascending (groupFields combinator negate rules) := by
    rw [Ascending, ← List.pairwise_map (f := Prod.fst)]
    show ["combinator", "negate", "rules"].Pairwise (· < ·)
    decide
  exact congrArg Value.object (orderFields_of_ascending hascending)

/-- The document of a filter is an object of them. -/
theorem Group.ofValue_toValue (g : Group) :
    Document.ofValue g.toValue
      = .object (Document.ofFields (groupFields g.combinator g.negate g.rules)) true :=
  congrArg Document.ofValue (toValue_group g.combinator g.negate g.rules)

/-- A rule is written with these fields. -/
theorem toValue_rule (r : Rule) : (Node.rule r).toValue = .object (ruleFields r) := by
  obtain ⟨field, operator, value⟩ := r
  have hascending : Ascending (ruleFields ⟨field, operator, value⟩) := by
    rw [Ascending, ← List.pairwise_map (f := Prod.fst)]
    cases value with
    | none =>
        show ["field", "operator"].Pairwise (· < ·)
        decide
    | some v =>
        show ["field", "operator", "value"].Pairwise (· < ·)
        decide
  refine Eq.trans ?_ (congrArg Value.object (orderFields_of_ascending hascending))
  cases value <;> rfl

/-- A written group has all the fields of a group. -/
theorem groupParts_of_group (combinator negate rules : Part) :
    partsOfFields? groupNames
        [(some "combinator", combinator), (some "negate", negate), (some "rules", rules)]
      = some [some combinator, some negate, some rules] := rfl

/-- It has no field of a rule. -/
theorem ruleParts_of_group (combinator negate rules : Part) :
    partsOfFields? ruleNames
        [(some "combinator", combinator), (some "negate", negate), (some "rules", rules)]
      = some [none, none, none] := rfl

/-- A written rule has no field of a group. -/
theorem groupParts_of_rule (field operator : Part) (value : Option Part) :
    partsOfFields? groupNames
        ([(some "field", field), (some "operator", operator)]
          ++ (value.map fun v => (some "value", v)).toList)
      = some [none, none, none] := by
  cases value <;> rfl

/-- Its parts are found in their order, the value if there is one. -/
theorem ruleParts_of_rule (field operator : Part) (value : Option Part) :
    partsOfFields? ruleNames
        ([(some "field", field), (some "operator", operator)]
          ++ (value.map fun v => (some "value", v)).toList)
      = some [some field, some operator, value] := by
  cases value <;> rfl

/-- The part that a value without members is. -/
def plainPart (v : Value) : Part := (Document.ofValue v, Node.listedIn? (Document.ofValue v))

/-- From them the rule is read back, with its value as it is read. -/
theorem ruleOfParts?_eq (r : Rule) :
    ruleOfParts? [some (plainPart (.string r.field)), some (plainPart (.string r.operator.tag)),
        r.value.map plainPart]
      = (reread? r.value).map fun value => .rule { r with value } := by
  have hoperator := Operator.ofDocument?_tag r.operator
  obtain ⟨field, operator, value⟩ := r
  simp only [ruleOfParts?, plainPart, Document.ofValue, Document.string?] at hoperator ⊢
  rw [hoperator]
  cases value with
  | none => rfl
  | some v =>
      simp only [Option.map_some, optional?, reread?, plainPart]
      cases ruleValue? (Document.ofValue v) <;> rfl

/-- The trees of values are JSON, and no deeper than the deepest. -/
theorem all_ofItems {nesting : Nat} {items : List Value}
    (h : Document.depthOfItems (Document.ofItems items) ≤ nesting) :
    (Document.ofItems items).all (fun item => item.isSound && item.depth ≤ nesting) = true := by
  induction items with
  | nil => rfl
  | cons v vs ih =>
      rw [Document.ofItems, Document.depthOfItems] at h
      have hfirst : (Document.ofValue v).depth ≤ nesting := by omega
      rw [Document.ofItems, List.all_cons, ih (by omega), Document.isSound_ofValue,
        decide_eq_true hfirst]
      rfl

mutual

/-- Reading a written tree rereads its values, and nothing else can
fail. -/
theorem Node.ofDocument?_toValue :
    ∀ n : Node, Node.ofDocument? (Document.ofValue n.toValue) = n.traverse? reread?
  | .rule r => by
      have hparts : fieldParts (Document.ofFields (ruleFields r))
          = [(some "field", plainPart (.string r.field)),
              (some "operator", plainPart (.string r.operator.tag))]
            ++ ((r.value.map plainPart).map fun v => (some "value", v)).toList := by
        obtain ⟨field, operator, value⟩ := r
        cases value <;> rfl
      rw [toValue_rule, Document.ofValue, Node.ofDocument?]
      simp only [hparts, groupParts_of_rule, ruleParts_of_rule, Option.bind_some]
      exact ruleOfParts?_eq r
  | .group combinator negate rules => by
      have hrules := Node.ofDocuments?_nodeValues rules
      have hparts : fieldParts (Document.ofFields (groupFields combinator negate rules))
          = [(some "combinator", plainPart (.string combinator.tag)),
              (some "negate", plainPart (.bool negate)),
              (some "rules", (Document.array (Document.ofItems (nodeValues rules)) true,
                traverseNodes? reread? rules))] := by
        rw [← hrules]
        rfl
      rw [toValue_group, Document.ofValue, Node.ofDocument?]
      simp only [hparts, groupParts_of_group, ruleParts_of_group, Option.bind_some]
      rw [Node.traverse?]
      simp only [groupOfParts?, plainPart, Document.ofValue, Combinator.ofDocument?_tag]
      cases traverseNodes? reread? rules <;> rfl

/-- A list of members is read back, with each value as it is read. -/
theorem Node.ofDocuments?_nodeValues :
    ∀ nodes : List Node, Node.ofDocuments? (Document.ofItems (nodeValues nodes))
      = traverseNodes? reread? nodes
  | [] => rfl
  | node :: nodes => by
      rw [nodeValues, Document.ofItems, Node.ofDocuments?, Node.ofDocument?_toValue node,
        Node.ofDocuments?_nodeValues nodes, traverseNodes?]
      cases node.traverse? reread? with
      | none => rfl
      | some first => cases traverseNodes? reread? nodes <;> rfl

end

/-- The same of the outermost group, which is also asked to be JSON and
not to be nested too deeply. -/
theorem Group.ofDocument?_toValue {nesting : Nat} (g : Group)
    (h : (Document.ofValue g.toValue).depth ≤ nesting) :
    Group.ofDocument? nesting (Document.ofValue g.toValue) = g.traverse? reread? := by
  obtain ⟨combinator, negate, rules⟩ := g
  have hparts : Document.parts? groupNames
      (.object (Document.ofFields (groupFields combinator negate rules)) true)
        = some [some (.string (some combinator.tag)), some (.bool negate),
            some (.array (Document.ofItems (nodeValues rules)) true)] := rfl
  rw [Group.ofValue_toValue] at h ⊢
  have hdeep : Document.depthOfItems (Document.ofItems (nodeValues rules)) ≤ nesting - 2 := by
    simp only [groupFields, Document.depth, Document.ofFields, Document.depthOfFields,
      Document.ofValue] at h
    omega
  have hrules : outermostRules? (nesting - 2)
      (.array (Document.ofItems (nodeValues rules)) true) = traverseNodes? reread? rules := by
    rw [outermostRules?, if_pos (all_ofItems hdeep), Node.ofDocuments?_nodeValues]
  unfold Group.ofDocument?
  rw [hparts]
  simp only [Option.bind_eq_bind, Option.bind_some, optional?, Combinator.ofDocument?_tag, hrules,
    Document.bool?, Group.traverse?]
  cases traverseNodes? reread? rules <;> rfl

end TableApi.Filter
