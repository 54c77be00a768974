/-
The JSON form of filter trees.

Inside a group a member that can be read as a group is a group, and only
otherwise a rule; a group needs no `rules`, so what decides is its
combinator. Members are read after the whole text of the outermost
`rules` is known to be JSON, the outermost group as the text goes.
-/
import TableApi.Json.Record
import TableApi.Filter.Basic

namespace TableApi.Filter

open Json

-- ============================================================== reading

def Combinator.ofDocument? (d : Document) : Option Combinator :=
  d.tag?.bind ofTag?

def Operator.ofDocument? (d : Document) : Option Operator :=
  d.tag?.bind ofTag?

/-- A field that may be absent, read if it is present. -/
def optional? {α β : Type} (absent : β) (read : α → Option β) : Option α → Option β
  | none => some absent
  | some a => read a

/-- The value of a rule; null counts as absent. -/
def ruleValue? (d : Document) : Option (Option Value) :=
  match d.value? with
  | some .null => some none
  | some v => some (some v)
  | none => none

def groupNames : List (List String) := [["combinator"], ["negate", "not"], ["rules"]]

def ruleNames : List (List String) := [["field"], ["operator"], ["value"]]

/-- A document, with the members it holds if it is a list of members. -/
abbrev Part := Document × Option (List Node)

/-- A group from the parts of its fields. -/
def groupOfParts? : List (Option Part) → Option Node
  | [some combinator, negate, rules] => do
      let combinator ← Combinator.ofDocument? combinator.1
      let negate ← optional? false (·.1.bool?) negate
      let rules ← optional? [] (·.2) rules
      return .group combinator negate rules
  | _ => none

/-- A rule from the parts of its fields. -/
def ruleOfParts? : List (Option Part) → Option Node
  | [some field, some operator, value] => do
      let field ← field.1.string?
      let operator ← Operator.ofDocument? operator.1
      let value ← optional? none (fun part => ruleValue? part.1) value
      return .rule ⟨field, operator, value⟩
  | _ => none

/-- The parts of a record's fields. -/
def partsOfFields? (names : List (List String)) (fields : List (FieldKey × Part)) :
    Option (List (Option Part)) :=
  (Record.ofObject names (fun _ => true) (fun _ part => .ok part) fields true).toOption

/-- The parts of a record's fields, given as an array. -/
def partsOfItems? (names : List (List String)) (items : List Part) :
    Option (List (Option Part)) :=
  (Record.ofArray names (fun _ part => .ok part) items true).toOption

mutual

/-- The member that a document is. -/
def Node.ofDocument? : Document → Option Node
  | .object fields _ =>
      let parts := fieldParts fields
      ((partsOfFields? groupNames parts).bind groupOfParts?).or
        ((partsOfFields? ruleNames parts).bind ruleOfParts?)
  | .array items _ =>
      let parts := itemParts items
      ((partsOfItems? groupNames parts).bind groupOfParts?).or
        ((partsOfItems? ruleNames parts).bind ruleOfParts?)
  | _ => none

/-- The members in a list of documents. -/
def Node.ofDocuments? : List Document → Option (List Node)
  | [] => some []
  | d :: ds =>
      match Node.ofDocument? d, Node.ofDocuments? ds with
      | some node, some nodes => some (node :: nodes)
      | _, _ => none

/-- The members that a document lists. -/
def Node.listedIn? : Document → Option (List Node)
  | .array items _ => Node.ofDocuments? items
  | _ => none

def fieldParts : List (FieldKey × Document) → List (FieldKey × Part)
  | [] => []
  | (key, d) :: fields => (key, d, Node.listedIn? d) :: fieldParts fields

def itemParts : List Document → List Part
  | [] => []
  | d :: ds => (d, Node.listedIn? d) :: itemParts ds

end

/-- The members of the outermost group: every one is JSON nested no
deeper than `nesting`, and a member. -/
def outermostRules? (nesting : Nat) : Document → Option (List Node)
  | .array items true =>
      if items.all fun item => item.isSound && item.depth ≤ nesting then
        Node.ofDocuments? items
      else none
  | _ => none

/-- The filter that a document is, nested no deeper than `nesting`. Fields
that a group does not have are not looked into. -/
def Group.ofDocument? (nesting : Nat) (d : Document) : Option Group := do
  match ← d.parts? groupNames with
  | [some combinator, negate, rules] =>
      let combinator ← Combinator.ofDocument? combinator
      let negate ← optional? false Document.bool? negate
      let rules ← optional? [] (outermostRules? (nesting - 2)) rules
      return ⟨combinator, negate, rules⟩
  | _ => none

/-- The filter in a JSON text. -/
def Group.read? (text : String) : Option Group :=
  (Document.readOnly? text).bind (Group.ofDocument? Document.maxDepth)

/-- The filter that a JSON value is. -/
def Group.ofValue? (v : Value) : Option Group :=
  let d := Document.ofValue v
  Group.ofDocument? d.depth d

-- ============================================================== writing

def Rule.toValue (r : Rule) : Value :=
  Value.ofFields <|
    [("field", .string r.field), ("operator", .string r.operator.tag)]
      ++ match r.value with
        | some v => [("value", v)]
        | none => []

mutual

def Node.toValue : Node → Value
  | .rule r => r.toValue
  | .group combinator negate rules =>
      Value.ofFields
        [("combinator", .string combinator.tag), ("negate", .bool negate),
          ("rules", .array (nodeValues rules))]

def nodeValues : List Node → List Value
  | [] => []
  | node :: nodes => node.toValue :: nodeValues nodes

end

/-- The JSON form of a filter. -/
def Group.toValue (g : Group) : Value := g.toNode.toValue

end TableApi.Filter
