/-
Patterns: paths as a router matches them.

A parameter begins at a colon, also within a segment, and takes all up to
the next slash. It may take nothing where a slash follows, and not at the
end of the path.
-/

namespace TableApi.Routing

inductive Piece where
  | char (c : Char)
  | parameter (name : List Char)
deriving DecidableEq

abbrev Pattern := List Piece

namespace Pattern

/-- Reads a pattern, within a parameter if its name so far is given, last
character first. Parameters need a name; neither a second colon nor an
asterisk may stand in one, and no asterisk outside. -/
def parse? : Option (List Char) → List Char → Option Pattern
  | none, [] => some []
  | none, ':' :: cs => parse? (some []) cs
  | none, c :: cs => if c = '*' then none else (parse? none cs).map (.char c :: ·)
  | some name, [] => if name.isEmpty then none else some [.parameter name.reverse]
  | some name, '/' :: cs =>
      if name.isEmpty then none
      else (parse? none cs).map fun rest =>
        .parameter name.reverse :: .char '/' :: rest
  | some name, c :: cs =>
      if c = ':' ∨ c = '*' then none else parse? (some (c :: name)) cs

/-- The pattern of a path. -/
def ofPath? (path : String) : Option Pattern := parse? none path.toList

/-- Whether two patterns fit the same paths: they are alike but for the
names of their parameters. -/
def sameShape : Pattern → Pattern → Bool
  | [], [] => true
  | .char c :: ps, .char d :: qs => c = d && sameShape ps qs
  | .parameter _ :: ps, .parameter _ :: qs => sameShape ps qs
  | _, _ => false

end Pattern

end TableApi.Routing
