/-
Finding the pattern that a path fits.

The path is followed through all patterns at once. A character is
preferred to a parameter: only where nothing is found behind the
character is the parameter tried. A search that comes within one slash
of the end of a pattern is given up, even if a parameter passed over
before would lead on. That is so where the path ends and the only way on
is a slash that ends a pattern; and where a slash is all that is left of
the path at a fork, and no pattern ends behind it.
-/
import TableApi.Routing.Pattern

namespace TableApi.Routing

variable {α : Type}

/-- A pattern that fits so far: what is left of it, the values that its
parameters have taken, and what it stands for. -/
structure Candidate (α : Type) where
  rest : Pattern
  values : List (List Char)
  item : α

namespace Candidate

/-- The candidate behind a character. -/
def afterChar? (c : Char) (k : Candidate α) : Option (Candidate α) :=
  match k.rest with
  | .char d :: rest => if c = d then some { k with rest } else none
  | _ => none

/-- The candidate behind a parameter that takes a value. -/
def afterParameter? (value : List Char) (k : Candidate α) : Option (Candidate α) :=
  match k.rest with
  | .parameter _ :: rest => some { k with rest, values := k.values ++ [value] }
  | _ => none

/-- Whether the pattern ends here. -/
def isComplete (k : Candidate α) : Bool := k.rest.isEmpty

/-- Whether a certain character is due. -/
def expects (c : Char) (k : Candidate α) : Bool := k.rest.head? == some (.char c)

end Candidate

/-- What a search comes to. -/
inductive Outcome (α : Type) where
  | found (candidate : Candidate α)
  | nothing
  /-- Nothing, and nothing else is to be tried. -/
  | givenUp

namespace Outcome

def toOption : Outcome α → Option (Candidate α)
  | found k => some k
  | _ => none

end Outcome

namespace Search

/-- The candidates behind a character. -/
def behindChar (c : Char) (ks : List (Candidate α)) : List (Candidate α) :=
  ks.filterMap (·.afterChar? c)

/-- The candidates behind a parameter. -/
def behindParameter (value : List Char) (ks : List (Candidate α)) :
    List (Candidate α) :=
  ks.filterMap (·.afterParameter? value)

/-- Whether the patterns part here: one of them ends, a parameter begins,
or the characters due differ. -/
def isFork (ks : List (Candidate α)) : Bool :=
  match ks.head?.bind (·.rest.head?) with
  | some (.char c) => !ks.all (·.expects c)
  | _ => true

/-- What is found where the path ends. -/
def atEnd (ks : List (Candidate α)) : Outcome α :=
  match ks.find? (·.isComplete) with
  | some k => .found k
  | none =>
      if ks.all (·.expects '/') && (behindChar '/' ks).any (·.isComplete) then .givenUp
      else .nothing

/-- What is found where a slash is all that is left of the path, at a
fork. A parameter may take nothing before it. -/
def atLastSlash (ks : List (Candidate α)) : Outcome α :=
  let literal := behindChar '/' ks
  let behind := if literal.isEmpty then behindChar '/' (behindParameter [] ks) else literal
  match behind.find? (·.isComplete) with
  | some k => .found k
  | none => if ks.isEmpty then .nothing else .givenUp

/-- Follows a path through the candidates. -/
def follow (ks : List (Candidate α)) (path : List Char) : Outcome α :=
  if ks.isEmpty then .nothing
  else match path with
    | [] => atEnd ks
    | c :: cs =>
        if c = '/' ∧ cs = [] ∧ isFork ks then atLastSlash ks
        else match follow (behindChar c ks) cs with
          | .nothing =>
              let taken := behindParameter ((c :: cs).takeWhile (· ≠ '/')) ks
              let rest := (c :: cs).dropWhile (· ≠ '/')
              if rest.isEmpty then atEnd taken
              else if rest.tail.isEmpty then atLastSlash taken
              else follow (behindChar '/' taken) rest.tail
          | outcome => outcome
termination_by path.length
decreasing_by
  · simp
  · have := ((c :: cs).dropWhile_sublist (· ≠ '/')).length_le
    simp only [List.length_tail, List.length_cons] at *
    omega

/-- The item whose pattern a path fits, with the values of the
parameters. -/
def find? (items : List (Pattern × α)) (path : List Char) :
    Option (α × List (List Char)) :=
  (follow (items.map fun (pattern, item) => ⟨pattern, [], item⟩) path).toOption.map
    fun k => (k.item, k.values)

end Search

end TableApi.Routing
