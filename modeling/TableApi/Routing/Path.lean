/-
Paths of routes.

A path is cut into segments at slashes; a segment that begins with a
colon is a parameter. Base path and route path make the full path, and
the collection route of a base path answers with a slash behind it too.
-/
import TableApi.Text.Blank
import TableApi.Text.Search

namespace TableApi.Routing.Path

def segments (path : String) : List (List Char) := path.toList.splitOn '/'

/-- The name of a parameter, if the segment is one. -/
def parameter? : List Char → Option (List Char)
  | ':' :: name => some name
  | _ => none

/-- A segment without asterisk that is no parameter without a name. -/
def isSegment (s : List Char) : Bool := !s.contains '*' && parameter? s != some []

/-- A path that a route can have. -/
def isRoutePath (path : String) : Bool :=
  path.toList.head? == some '/' && (segments path).all isSegment

/-- Whether two lists of segments have parameters of different names at
one place, all before it being alike. -/
def segmentsConflict : List (List Char) → List (List Char) → Bool
  | s :: ss, t :: ts =>
      match parameter? s, parameter? t with
      | some m, some n => if m = n then segmentsConflict ss ts else true
      | none, none => if s = t then segmentsConflict ss ts else false
      | _, _ => false
  | _, _ => false

/-- Whether no router can hold both paths. -/
def conflict (a b : String) : Bool := segmentsConflict (segments a) (segments b)

/-- A base path: it begins with a slash and has no asterisk, no empty
segment and no white space. -/
def isBasePath (path : String) : Bool :=
  let cs := path.toList
  cs.head? == some '/' && !cs.contains '*' && !Text.occursIn ['/', '/'] cs
    && !cs.any Text.isBlank

/-- The base path without a slash at its end, unless it is all there
is. -/
def normalized (path : String) : String :=
  let kept := (path.toList.reverse.dropWhile (· = '/')).reverse
  if kept.isEmpty then "/" else String.ofList kept

/-- The full path of a route. -/
def join (base path : String) : String :=
  if base = "/" then path else if path = "/" then base else base ++ path

end TableApi.Routing.Path
