/-
LIKE patterns.

In a pattern `%` stands for any run of characters and `_` for exactly
one; a backslash takes the next character literally, and at the end of
the pattern it stands for itself.
-/
import TableApi.Text.LowerCase

namespace TableApi.Like

inductive Token where
  | literal (c : Char)
  | one
  | run
deriving DecidableEq

/-- The tokens of a pattern. -/
def tokens : List Char → List Token
  | [] => []
  | '\\' :: [] => [.literal '\\']
  | '\\' :: c :: cs => .literal c :: tokens cs
  | c :: cs =>
      (if c = '%' then .run else if c = '_' then .one else .literal c) :: tokens cs

/-- Reads a pattern from the left, keeping the rests of the text that
the tokens so far can leave: `rests` says of every suffix of the text,
longest first, whether it is one. -/
def advance (text : List Char) (rests : List Bool) : Token → List Bool
  | .run => afterRun false rests
  | .one => false :: rests.dropLast
  | .literal c => false :: afterLiteral c text rests
where
  /-- A suffix of a possible rest is a possible rest. -/
  afterRun (seen : Bool) : List Bool → List Bool
    | [] => []
    | r :: rs => (seen || r) :: afterRun (seen || r) rs
  /-- A possible rest that starts with the character gives up that
  character. -/
  afterLiteral (c : Char) : List Char → List Bool → List Bool
    | d :: text, r :: rs => (r && c == d) :: afterLiteral c text rs
    | _, _ => []

/-- Before any token the only rest is the whole text. -/
def initial (text : List Char) : List Bool :=
  true :: List.replicate text.length false

/-- Whether the tokens match the whole text: the empty rest is possible. -/
def matchTokens (text : List Char) (ts : List Token) : Bool :=
  (ts.foldl (advance text) (initial text)).getLastD false

/-- Whether a text matches a pattern. Ignoring case compares the lower
case of both. -/
def isMatch (text pattern : List Char) (ignoreCase : Bool) : Bool :=
  if ignoreCase then matchTokens (Text.lower text) (tokens (Text.lower pattern))
  else matchTokens text (tokens pattern)

/-- The pattern that stands for a text literally. -/
def escape (text : List Char) : List Char :=
  text.flatMap fun c => if c = '%' ∨ c = '_' ∨ c = '\\' then ['\\', c] else [c]

end TableApi.Like
