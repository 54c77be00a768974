/-
Which members of a filter are groups.

The members of a group are read one from one from what it lists
(`forall₂_membersOf`), so by going down from the whole of a text it is known
what every object in it was read as (`ofDocument?_of_readAs`). That is not
what its list of rules makes it: a rule with a combinator becomes a group
with no rules, and its constraint is lost; and what has a list of rules,
but is no group for some other reason, may be a rule, and its list is lost.
Otherwise every object is what its list of rules makes it
(`readByRules_iff`).
-/
import TableApi.Proofs.Filter.Forms

namespace TableApi.Filter

open Json Record

-- ================================================================= members

def itemsOf : Document → List Document
  | .array items _ => items
  | _ => []

/-- The members that a document lists: what is in an array under `rules`. A
group that is given as an array has its rules in third place. -/
def membersOf : Document → List Document
  | .object fields _ => (under ["rules"] fields).flatMap itemsOf
  | .array [combinator, negate, rules] closed =>
      match Node.ofDocument? (.array [combinator, negate, rules] closed) with
      | some (.group ..) => itemsOf rules
      | _ => []
  | _ => []

section Members

variable {d : Document} {combinator : Combinator} {negate : Bool} {rules : List Node}

/-- The parts of a record with three fields in an array: its items. -/
theorem partsOfItems?_eq_some_iff {first second third : List String} {items : List Document}
    {parts : List (Option Part)} :
    partsOfItems? [first, second, third] (itemParts items) = some parts
      ↔ items.length ≤ 3
        ∧ parts = (items.map some ++ List.replicate (3 - items.length) none).map
          (Option.map toPart) := by
  rw [partsOfItems?, toOption_eq_some_iff, ofArray_eq_ok_iff, itemParts_eq_map, List.length_map,
    List.map_append, List.map_map, List.map_map, List.map_replicate]
  exact and_iff_right rfl

/-- The rules of a group that is given as an array. -/
theorem rules_of_groupOfItems {items : List Document}
    (h : (partsOfItems? groupNames (itemParts items)).bind groupOfParts?
      = some (.group combinator negate rules)) :
    ((∀ first second third, items ≠ [first, second, third]) ∧ rules = [])
      ∨ ∃ first second third, items = [first, second, third]
        ∧ Node.listedIn? third = some rules := by
  obtain ⟨parts, hparts, hgroup⟩ := Option.bind_eq_some_iff.1 h
  obtain ⟨first, second, third, _, _, _, rfl, heq, -, -, hrules⟩ :=
    groupOfParts?_eq_some_iff.1 hgroup
  obtain ⟨rfl, rfl, rfl⟩ := Node.group.inj heq
  obtain ⟨hlength, hitems⟩ := partsOfItems?_eq_some_iff.1 hparts
  match items, hitems with
  | [], hitems => cases hitems
  | [_], hitems =>
      obtain rfl : third = none := by cases hitems; rfl
      exact .inl ⟨by simp, (Option.some.inj hrules).symm⟩
  | [_, _], hitems =>
      obtain rfl : third = none := by cases hitems; rfl
      exact .inl ⟨by simp, (Option.some.inj hrules).symm⟩
  | [a, b, c], hitems =>
      obtain rfl : third = some (toPart c) := by cases hitems; rfl
      exact .inr ⟨a, b, c, rfl, hrules⟩
  | _ :: _ :: _ :: _ :: _, _ =>
      simp only [List.length_cons] at hlength
      omega

/-- The rules of a group are read from the members that it lists, one from
each. -/
theorem forall₂_membersOf (h : Node.ofDocument? d = some (.group combinator negate rules)) :
    List.Forall₂ (fun d node => Node.ofDocument? d = some node) (membersOf d) rules := by
  cases d with
  | object fields closed =>
      rw [membersOf]
      rcases (ofDocument?_eq_group_iff.1 h).rules with ⟨hunder, rfl⟩ | ⟨items, ends, hunder, hitems⟩
      · rw [hunder]
        exact .nil
      · rw [hunder, List.flatMap_singleton]
        exact hitems
  | array items closed =>
      have hgroup : (partsOfItems? groupNames (itemParts items)).bind groupOfParts?
          = some (.group combinator negate rules) := by
        rw [Node.ofDocument?, Option.or_eq_some_iff] at h
        rcases h with hgroup | ⟨-, hrule⟩
        · exact hgroup
        · obtain ⟨parts, -, hparts⟩ := Option.bind_eq_some_iff.1 hrule
          obtain ⟨_, _, _, _, -, heq, -⟩ := ruleOfParts?_eq_some_iff.1 hparts
          cases heq
      rcases rules_of_groupOfItems hgroup with ⟨hshort, rfl⟩ | ⟨first, second, third, rfl, hthird⟩
      · have hnone : membersOf (.array items closed) = [] := by
          unfold membersOf
          split
          · next heq => cases heq
          · next heq => exact absurd (Document.array.inj heq).1 (hshort _ _ _)
          · rfl
        rw [hnone]
        exact .nil
      · obtain ⟨items, ends, rfl, hitems⟩ := listedIn?_eq_some_iff.1 hthird
        rw [membersOf, h]
        exact hitems
  | _ => cases h

theorem listedIn?_of_outermostRules? {nesting : Nat} (h : outermostRules? nesting d = some rules) :
    Node.listedIn? d = some rules := by
  unfold outermostRules? at h
  split at h
  · split at h
    · exact h
    · cases h
  · cases h

/-- If it is an object, the outermost group forms a group. -/
theorem formsGroup_of_parts {fields : List (FieldKey × Document)} {closed : Bool}
    {nesting : Nat} {first : Document} {second third : Option Document}
    (hparts : Document.parts? groupNames (.object fields closed)
      = some [some first, second, third])
    (hcombinator : Combinator.ofDocument? first = some combinator)
    (hnegate : optional? false Document.bool? second = some negate)
    (hrules : optional? [] (outermostRules? nesting) third = some rules) :
    FormsGroup fields combinator negate rules := by
  obtain ⟨-, hpassable, hfirst, hsecond, hthird⟩ :=
    (ofObject_three_eq_ok_iff pairwise_groupNames).1 (toOption_eq_some_iff.1 hparts)
  refine ⟨fun field hfield => ?_, ⟨first, hfirst, hcombinator⟩, ?_, ?_⟩
  · obtain ⟨key, hkey, -⟩ := hpassable field hfield
    rw [hkey]
    rfl
  · rcases optional?_eq_some_iff.1 hnegate with ⟨rfl, rfl⟩ | ⟨d, rfl, hd⟩
    · exact .inl ⟨hsecond, rfl⟩
    · obtain rfl := bool?_eq_some_iff.1 hd
      exact .inr hsecond
  · rcases optional?_eq_some_iff.1 hrules with ⟨rfl, rfl⟩ | ⟨d, rfl, hd⟩
    · exact .inl ⟨hthird, rfl⟩
    · obtain ⟨items, ends, rfl, hitems⟩ :=
        listedIn?_eq_some_iff.1 (listedIn?_of_outermostRules? hd)
      exact .inr ⟨items, ends, hthird, hitems⟩

/-- If it is an array, the outermost group is read from its items. -/
theorem groupOfItems_of_parts {items : List Document} {closed : Bool}
    {nesting : Nat} {first : Document} {second third : Option Document}
    (hparts : Document.parts? groupNames (.array items closed)
      = some [some first, second, third])
    (hcombinator : Combinator.ofDocument? first = some combinator)
    (hnegate : optional? false Document.bool? second = some negate)
    (hrules : optional? [] (outermostRules? nesting) third = some rules) :
    (partsOfItems? groupNames (itemParts items)).bind groupOfParts?
      = some (.group combinator negate rules) := by
  obtain ⟨-, hlength, hitems⟩ := ofArray_eq_ok_iff.1 (toOption_eq_some_iff.1 hparts)
  have hfound : items.map some ++ List.replicate (3 - items.length) none
      = [some first, second, third] := hitems.symm
  refine Option.bind_eq_some_iff.2 ⟨_, partsOfItems?_eq_some_iff.2 ⟨hlength, rfl⟩, ?_⟩
  rw [hfound]
  refine groupOfParts?_eq_some_iff.2 ⟨toPart first, second.map toPart, third.map toPart,
    combinator, negate, rules, rfl, rfl, hcombinator, ?_, ?_⟩
  · cases second <;> exact hnegate
  · rcases optional?_eq_some_iff.1 hrules with ⟨rfl, rfl⟩ | ⟨d, rfl, hd⟩
    · rfl
    · exact listedIn?_of_outermostRules? hd

/-- The outermost group is read as if it were a member. -/
theorem ofDocument?_of_group {nesting : Nat} {g : Group}
    (h : Group.ofDocument? nesting d = some g) : Node.ofDocument? d = some g.toNode := by
  unfold Group.ofDocument? at h
  obtain ⟨parts, hparts, h⟩ := Option.bind_eq_some_iff.1 h
  split at h
  case h_2 => cases h
  case h_1 first second third =>
    simp only [Option.bind_eq_bind, Option.bind_eq_some_iff, Option.pure_def,
      Option.some.injEq] at h
    obtain ⟨combinator, hcombinator, negate, hnegate, rules, hrules, rfl⟩ := h
    cases d with
    | object fields closed =>
        exact ofDocument?_eq_group_iff.2 (formsGroup_of_parts hparts hcombinator hnegate hrules)
    | array items closed =>
        rw [Node.ofDocument?, groupOfItems_of_parts hparts hcombinator hnegate hrules]
        rfl
    | _ => cases hparts

end Members

-- ================================================================== texts

/-- `d` is read as `node`, where the whole of `top` is read as `root`. -/
inductive ReadAs (top : Document) (root : Node) : Document → Node → Prop where
  | root : ReadAs top root top root
  | member {parent d : Document} {combinator : Combinator} {negate : Bool} {rules : List Node}
      {node : Node} (h : ReadAs top root parent (.group combinator negate rules))
      (hmem : (d, node) ∈ (membersOf parent).zip rules) : ReadAs top root d node

/-- `d` is a member of `top`, or of a member there, at any depth. -/
inductive Inside (top : Document) : Document → Prop where
  | member {d : Document} (h : d ∈ membersOf top) : Inside top d
  | deeper {parent d : Document} (h : Inside top parent) (hmem : d ∈ membersOf parent) :
      Inside top d

/-- There is a field `rules`. -/
def CarriesRules (fields : List (FieldKey × Document)) : Prop :=
  some "rules" ∈ fields.map Prod.fst

/-- An object is what its list of rules makes it: a group if it carries one,
and otherwise a rule with its own field, operator and value. -/
def ByRules (fields : List (FieldKey × Document)) (node : Node) : Prop :=
  (CarriesRules fields → ∃ combinator negate rules, node = .group combinator negate rules)
    ∧ (¬ CarriesRules fields → ∃ r, node = .rule r ∧ FormsRule fields r)

/-- Every object inside is what its list of rules makes it. -/
def ReadByRules (top : Document) (root : Node) : Prop :=
  ∀ fields closed, Inside top (.object fields closed) →
    ∃ node, ReadAs top root (.object fields closed) node ∧ ByRules fields node

/-- The fields form a group exactly if `rules` is among them. -/
def GroupsCarryRules (fields : List (FieldKey × Document)) : Prop :=
  (∃ combinator negate rules, FormsGroup fields combinator negate rules) ↔ CarriesRules fields

section Texts

variable {top d : Document} {root node : Node}

/-- What is read anywhere inside is read from its document alone. -/
theorem ofDocument?_of_readAs (htop : Node.ofDocument? top = some root)
    (h : ReadAs top root d node) : Node.ofDocument? d = some node := by
  induction h with
  | root => exact htop
  | member _ hmem ih => exact (List.forall₂_iff_zip.1 (forall₂_membersOf ih)).2 hmem

/-- Of what a group lists, every document is read. -/
theorem exists_readAs_of_group (htop : Node.ofDocument? top = some root) {parent : Document}
    {combinator : Combinator} {negate : Bool} {rules : List Node}
    (hparent : ReadAs top root parent (.group combinator negate rules))
    (hmem : d ∈ membersOf parent) : ∃ node, ReadAs top root d node := by
  have hrules := forall₂_membersOf (ofDocument?_of_readAs htop hparent)
  obtain ⟨i, hi, rfl⟩ := List.getElem_of_mem hmem
  have hi' : i < ((membersOf parent).zip rules).length := by
    rw [List.length_zip, ← hrules.length_eq, Nat.min_self]
    exact hi
  have hpair := List.getElem_mem hi'
  rw [List.getElem_zip] at hpair
  exact ⟨_, .member hparent hpair⟩

/-- An array lists members only if it is read as a group. -/
theorem group_of_membersOf {items : List Document} {closed : Bool}
    (h : d ∈ membersOf (.array items closed)) : ∃ combinator negate rules,
      Node.ofDocument? (.array items closed) = some (.group combinator negate rules) := by
  unfold membersOf at h
  split at h
  · next heq => cases heq
  · next first second third ends heq =>
    obtain ⟨rfl, rfl⟩ := Document.array.inj heq
    split at h
    · next hread => exact ⟨_, _, _, hread⟩
    · cases h
  · cases h

theorem carriesRules_of_membersOf {fields : List (FieldKey × Document)} {closed : Bool}
    (h : d ∈ membersOf (.object fields closed)) : CarriesRules fields := by
  obtain ⟨list, hlist, -⟩ := List.mem_flatMap.1 h
  obtain ⟨field, hfield, hkey⟩ := List.mem_filterMap.1 hlist
  refine List.mem_map.2 ⟨field, hfield, ?_⟩
  obtain ⟨_ | key, d⟩ := field
  · cases hkey
  · split at hkey
    · next hany => simpa using hany
    · cases hkey

/-- If every object inside forms a group just if it carries rules, then
everything inside is read. -/
theorem exists_readAs (htop : Node.ofDocument? top = some root)
    (hroot : ∃ combinator negate rules, root = .group combinator negate rules)
    (hgroups : ∀ fields closed, Inside top (.object fields closed) → GroupsCarryRules fields)
    (h : Inside top d) : ∃ node, ReadAs top root d node := by
  induction h with
  | member hmem =>
      obtain ⟨combinator, negate, rules, rfl⟩ := hroot
      exact exists_readAs_of_group htop .root hmem
  | @deeper parent d hinside hmem ih =>
      obtain ⟨node, hnode⟩ := ih
      have hread := ofDocument?_of_readAs htop hnode
      cases parent with
      | object fields closed =>
          obtain ⟨combinator, negate, rules, hforms⟩ :=
            (hgroups fields closed hinside).2 (carriesRules_of_membersOf hmem)
          rw [ofDocument?_eq_group_iff.2 hforms] at hread
          obtain rfl := Option.some.inj hread
          exact exists_readAs_of_group htop hnode hmem
      | array items closed =>
          obtain ⟨combinator, negate, rules, hgroup⟩ := group_of_membersOf hmem
          rw [hgroup] at hread
          obtain rfl := Option.some.inj hread
          exact exists_readAs_of_group htop hnode hmem
      | _ => cases hmem

/-- Objects are what their lists of rules make them exactly if those that
form a group are those that carry rules. -/
theorem readByRules_iff (htop : Node.ofDocument? top = some root)
    (hroot : ∃ combinator negate rules, root = .group combinator negate rules) :
    ReadByRules top root
      ↔ ∀ fields closed, Inside top (.object fields closed) → GroupsCarryRules fields := by
  constructor
  · intro hread fields closed hinside
    obtain ⟨node, hnode, hcarries, hnot⟩ := hread fields closed hinside
    have hnode := ofDocument?_of_readAs htop hnode
    constructor
    · rintro ⟨combinator, negate, rules, hforms⟩
      by_contra hno
      obtain ⟨r, rfl, -⟩ := hnot hno
      rw [ofDocument?_eq_group_iff.2 hforms] at hnode
      cases hnode
    · intro hrules
      obtain ⟨combinator, negate, rules, rfl⟩ := hcarries hrules
      exact ⟨combinator, negate, rules, ofDocument?_eq_group_iff.1 hnode⟩
  · intro hgroups fields closed hinside
    obtain ⟨node, hnode⟩ := exists_readAs htop hroot hgroups hinside
    have hread := ofDocument?_of_readAs htop hnode
    refine ⟨node, hnode, fun hcarries => ?_, fun hno => ?_⟩
    · obtain ⟨combinator, negate, rules, hforms⟩ := (hgroups fields closed hinside).2 hcarries
      rw [ofDocument?_eq_group_iff.2 hforms] at hread
      exact ⟨combinator, negate, rules, (Option.some.inj hread).symm⟩
    · cases node with
      | group combinator negate rules =>
        exact absurd ((hgroups fields closed hinside).1
          ⟨combinator, negate, rules, ofDocument?_eq_group_iff.1 hread⟩) hno
      | rule r => exact ⟨r, rfl, (ofDocument?_eq_rule_iff.1 hread).1⟩

/-- What every object in an accepted text is read as. Each is read by what
it forms, a group before a rule, so objects are what their lists of rules
make them exactly if those that form a group are those that carry rules. -/
theorem read_by_rules_iff {text : String} {g : Group} (h : Group.read? text = some g) :
    ∃ top, Document.readOnly? text = some top
      ∧ (∀ fields closed node, ReadAs top g.toNode (.object fields closed) node →
        (∀ combinator negate rules, node = .group combinator negate rules
            ↔ FormsGroup fields combinator negate rules)
          ∧ ∀ r, node = .rule r ↔ FormsRule fields r
            ∧ ∀ combinator negate rules, ¬ FormsGroup fields combinator negate rules)
      ∧ (ReadByRules top g.toNode
        ↔ ∀ fields closed, Inside top (.object fields closed) → GroupsCarryRules fields) := by
  obtain ⟨top, htop, hgroup⟩ := Option.bind_eq_some_iff.1 h
  have hroot := ofDocument?_of_group hgroup
  refine ⟨top, htop, fun fields closed node hnode => ?_, readByRules_iff hroot ⟨_, _, _, rfl⟩⟩
  have hread := ofDocument?_of_readAs hroot hnode
  refine ⟨fun combinator negate rules => ?_, fun r => ?_⟩
  · rw [← @ofDocument?_eq_group_iff fields closed, hread, Option.some.injEq]
  · rw [← @ofDocument?_eq_rule_iff fields closed, hread, Option.some.injEq]

/-- A rule in a group in a group. -/
def nestedText : String :=
  "\x7b\"combinator\":\"and\",\"rules\":[\x7b\"combinator\":\"or\",\"rules\":"
    ++ "[\x7b\"field\":\"age\",\"operator\":\"is_null\"\x7d]\x7d]\x7d"

/-- The fields of the rule in it, of the inner and of the outer group. -/
def nestedRule : List (FieldKey × Document) :=
  [(some "field", .string (some "age")), (some "operator", .string (some "is_null"))]

def nestedGroup : List (FieldKey × Document) :=
  [(some "combinator", .string (some "or")),
    (some "rules", .array [.object nestedRule true] true)]

def nestedTop : List (FieldKey × Document) :=
  [(some "combinator", .string (some "and")),
    (some "rules", .array [.object nestedGroup true] true)]

/-- In it the inner group is a group and the rule is a rule. -/
theorem read_by_rules_of_nested :
    Group.read? nestedText
        = some ⟨.and, false, [.group .or false [.rule ⟨"age", .isNull, none⟩]]⟩
      ∧ ∃ top, Document.readOnly? nestedText = some top
        ∧ ReadByRules top
          (.group .and false [.group .or false [.rule ⟨"age", .isNull, none⟩]]) := by
  have hdocument : Document.readOnly? nestedText = some (.object nestedTop true) := rfl
  have hread : Group.read? nestedText
      = some ⟨.and, false, [.group .or false [.rule ⟨"age", .isNull, none⟩]]⟩ := by
    rw [Group.read?, hdocument]
    rfl
  obtain ⟨top, htop, -, hiff⟩ := read_by_rules_iff hread
  obtain rfl := Option.some.inj (hdocument.symm.trans htop)
  refine ⟨hread, _, htop, hiff.2 fun fields closed hinside => ?_⟩
  have hobjects : ∀ {d}, Inside (.object nestedTop true) d →
      d = .object nestedGroup true ∨ d = .object nestedRule true := by
    intro d hinside
    induction hinside with
    | member hmem => exact .inl (List.mem_singleton.1 hmem)
    | deeper _ hmem ih =>
        rcases ih with rfl | rfl
        · exact .inr (List.mem_singleton.1 hmem)
        · cases hmem
  rcases hobjects hinside with heq | heq
  · obtain ⟨rfl, rfl⟩ := Document.object.inj heq
    have hforms : FormsGroup nestedGroup .or false [.rule ⟨"age", .isNull, none⟩] :=
      (@ofDocument?_eq_group_iff nestedGroup true _ _ _).1 rfl
    exact iff_of_true ⟨_, _, _, hforms⟩ (show some "rules" ∈ nestedGroup.map Prod.fst by decide)
  · obtain ⟨rfl, rfl⟩ := Document.object.inj heq
    refine iff_of_false ?_ (show some "rules" ∉ nestedRule.map Prod.fst by decide)
    rintro ⟨combinator, negate, rules, hforms⟩
    obtain ⟨d, hd, -⟩ := hforms.combinator
    cases hd

/-- A rule with a combinator, and no list of rules. -/
def constrainedText : String :=
  "\x7b\"combinator\":\"and\",\"rules\":[\x7b\"combinator\":\"and\",\"field\":\"age\","
    ++ "\"operator\":\">\",\"value\":40\x7d]\x7d"

def constrained : List (FieldKey × Document) :=
  [(some "combinator", .string (some "and")), (some "field", .string (some "age")),
    (some "operator", .string (some ">")), (some "value", .number (some (.int 40)))]

/-- A list of rules in an object that can be read as a rule, but as no
group. -/
def listingText : String :=
  "\x7b\"combinator\":\"and\",\"rules\":[\x7b\"field\":\"age\",\"operator\":\"=\","
    ++ "\"rules\":[\x7b\"field\":\"name\",\"operator\":\"=\"\x7d]\x7d]\x7d"

def listing : List (FieldKey × Document) :=
  [(some "field", .string (some "age")), (some "operator", .string (some "=")),
    (some "rules", .array [.object [(some "field", .string (some "name")),
      (some "operator", .string (some "="))] true] true)]

/-- The one loses its constraint, and the other its list. -/
theorem constraint_read_as_group :
    Group.read? constrainedText = some ⟨.and, false, [.group .and false []]⟩
      ∧ Group.read? listingText = some ⟨.and, false, [.rule ⟨"age", .equals, none⟩]⟩
      ∧ ¬ ∀ text g top, Group.read? text = some g → Document.readOnly? text = some top →
        ReadByRules top g.toNode := by
  let top : Document := .object [(some "combinator", .string (some "and")),
    (some "rules", .array [.object constrained true] true)] true
  have hdocument : Document.readOnly? constrainedText = some top := rfl
  have hread : Group.read? constrainedText = some ⟨.and, false, [.group .and false []]⟩ := by
    rw [Group.read?, hdocument]
    rfl
  have hlisting : Document.readOnly? listingText = some (.object
      [(some "combinator", .string (some "and")),
        (some "rules", .array [.object listing true] true)] true) := rfl
  have hlistingRead : Group.read? listingText
      = some ⟨.and, false, [.rule ⟨"age", .equals, none⟩]⟩ := by
    rw [Group.read?, hlisting]
    rfl
  refine ⟨hread, hlistingRead, fun h => ?_⟩
  obtain ⟨node, hnode, -, hrule⟩ := h constrainedText _ top hread hdocument constrained true
    (.member (List.mem_singleton.2 rfl))
  obtain ⟨r, rfl, -⟩ := hrule (show some "rules" ∉ constrained.map Prod.fst by decide)
  have hgroup : Node.ofDocument? (.object constrained true) = some (.group .and false []) := rfl
  rw [ofDocument?_of_readAs rfl hnode] at hgroup
  cases hgroup

end Texts

end TableApi.Filter
