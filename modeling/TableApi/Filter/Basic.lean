/-
Filter trees: what a client sends to select rows.

A rule compares one field with a value; a group joins rules and groups
with `and` or `or` and may be negated. The operators are a closed set,
each with one canonical tag and some aliases.
-/
import TableApi.Json.Value

namespace TableApi.Filter

open Json

inductive Combinator where
  | and
  | or
deriving DecidableEq

inductive Operator where
  | equals
  | notEquals
  | greater
  | greaterEquals
  | less
  | lessEquals
  | contains
  | notContains
  | startsWith
  | endsWith
  | like
  | iLike
  | isNull
  | isNotNull
  | oneOf
  | notOneOf
  | between
  | notBetween
deriving DecidableEq

namespace Combinator

def tag : Combinator → String
  | and => "and"
  | or => "or"

/-- The combinator of a tag: lower case or upper case throughout. -/
def ofTag? : String → Option Combinator
  | "and" | "AND" => some and
  | "or" | "OR" => some or
  | _ => none

end Combinator

namespace Operator

/-- All operators, in the order in which they are listed to clients. -/
def all : List Operator :=
  [equals, notEquals, greater, greaterEquals, less, lessEquals, contains,
    notContains, startsWith, endsWith, like, iLike, isNull, isNotNull,
    oneOf, notOneOf, between, notBetween]

/-- The canonical tag. -/
def tag : Operator → String
  | equals => "="
  | notEquals => "!="
  | greater => ">"
  | greaterEquals => ">="
  | less => "<"
  | lessEquals => "<="
  | contains => "contains"
  | notContains => "not_contains"
  | startsWith => "starts_with"
  | endsWith => "ends_with"
  | like => "like"
  | iLike => "ilike"
  | isNull => "is_null"
  | isNotNull => "is_not_null"
  | oneOf => "in"
  | notOneOf => "not_in"
  | between => "between"
  | notBetween => "not_between"

/-- The other tags that clients may send. -/
def aliases : Operator → List String
  | equals => ["equals", "eq"]
  | notEquals => ["not_equals", "ne"]
  | greater => ["greater", "gt"]
  | greaterEquals => ["greater_equals", "gte"]
  | less => ["less", "lt"]
  | lessEquals => ["less_equals", "lte"]
  | _ => []

/-- The operator of a tag. -/
def ofTag? (tag : String) : Option Operator :=
  all.find? fun op => op.tag == tag || op.aliases.contains tag

end Operator

/-- One comparison. Without a value it reads as a comparison with
null. -/
structure Rule where
  field : String
  operator : Operator
  value : Option Value

/-- A member of a group. -/
inductive Node where
  | rule (rule : Rule)
  | group (combinator : Combinator) (negate : Bool) (rules : List Node)

/-- A filter: the outermost group. -/
structure Group where
  combinator : Combinator
  negate : Bool
  rules : List Node

namespace Group

def toNode (g : Group) : Node := .group g.combinator g.negate g.rules

/-- All of the rules. -/
def allOf (rules : List Node) : Group := ⟨.and, false, rules⟩

/-- Any of the rules. -/
def anyOf (rules : List Node) : Group := ⟨.or, false, rules⟩

instance : Inhabited Group := ⟨allOf []⟩

/-- The group with its negation toggled. -/
def negated (g : Group) : Group := { g with negate := !g.negate }

end Group

instance : Inhabited Node := ⟨Group.toNode default⟩

end TableApi.Filter
