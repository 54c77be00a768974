/-
Paths of URLs, with their dot segments resolved.
-/
import TableApi.Url.Scheme

namespace TableApi.Url.Path

/-- The ways to write the segment of one dot. -/
def isDot (segment : List Char) : Bool :=
  [".", "%2e"].any fun s => Text.asciiLower segment == s.toList

/-- The ways to write the segment of two dots. -/
def isDotDot (segment : List Char) : Bool :=
  ["..", ".%2e", "%2e.", "%2e%2e"].any fun s => Text.asciiLower segment == s.toList

/-- A letter and a colon, or a bar in its place: the name of a drive. -/
def isDrive : List Char → Bool
  | [c, mark] => c.isAlpha && (mark = ':' || mark = '|')
  | _ => false

/-- The segments without the last one. A drive is never left. -/
def parent : List (List Char) → List (List Char)
  | [] => []
  | segment :: before => if isDrive segment then segment :: before else before

/-- The segments with one more. The drive that the path of a file begins
with is a segment of its own, with or without a slash behind it. -/
def enter (s : Scheme) : List (List Char) → List Char → List (List Char)
  | [], c :: ':' :: d :: cs =>
      if s = .file && c.isAlpha then [d :: cs, [c, ':']] else [c :: ':' :: d :: cs]
  | kept, segment => segment :: kept

/-- Segments with dots resolved; `kept` holds those before, last first. -/
def resolveDots (s : Scheme) (kept : List (List Char)) :
    List (List Char) → List (List Char)
  | [] => kept.reverse
  | segment :: rest =>
      let close (kept : List (List Char)) := if rest.isEmpty then [] :: kept else kept
      if isDotDot segment then resolveDots s (close (parent kept)) rest
      else if isDot segment then resolveDots s (close kept) rest
      else resolveDots s (enter s kept segment) rest

/-- The path with dots resolved. Only a path that begins with a slash has
segments. -/
def resolve (s : Scheme) : List Char → List Char
  | '/' :: cs => '/' :: ['/'].intercalate (resolveDots s [] (cs.splitOn '/'))
  | cs => cs

end TableApi.Url.Path
