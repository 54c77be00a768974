/-
URLs cut into their parts.

Behind the scheme stand an authority, a path, and a query behind a
question mark; a fragment behind `#` is dropped. The scheme decides how
the authority is told from the path. Parts are kept as they are written,
percent-encoded.
-/
import TableApi.Url.Authority
import TableApi.Url.Path

namespace TableApi

structure Url where
  authority : Url.Authority
  path : List Char
  query : List Char

namespace Url

/-- Text without the control characters and blanks at its ends. -/
def strip (cs : List Char) : List Char :=
  let isEdge (c : Char) : Bool := c.toNat ≤ 0x20
  ((cs.dropWhile isEdge).reverse.dropWhile isEdge).reverse

/-- Tabs and line ends are ignored anywhere in a URL. -/
def unwrapLines (cs : List Char) : List Char :=
  cs.filter fun c => c ≠ '\t' ∧ c ≠ '\n' ∧ c ≠ '\r'

/-- The path as it begins behind an authority: with a slash, unless
nothing is left of a URL whose scheme is not known. -/
def rooted (s : Scheme) (path : List Char) : List Char :=
  let path := path.map fun c => if s.isSlash c then '/' else c
  if path.head? = some '/' ∨ path.isEmpty ∧ s = .other then path else '/' :: path

/-- The path at the start of a text, and the query behind it. -/
def pathAndQuery (rest : List Char) : List Char × List Char :=
  let (path, tail) := rest.span fun c => c ≠ '?' ∧ c ≠ '#'
  match tail with
  | '?' :: cs => (path, cs.takeWhile (· ≠ '#'))
  | _ => (path, [])

/-- The URL with this authority and what follows the authority. -/
def behind (s : Scheme) (authority : Authority) (rest : List Char) : Url :=
  let (path, query) := pathAndQuery rest
  ⟨authority, Path.resolve s (rooted s path), query⟩

/-- The URL of a file, from what follows the colon. A drive in the place
of the host belongs to the path. -/
def ofFile? (rest : List Char) : Option Url :=
  match rest with
  | a :: b :: cs =>
      if !Scheme.file.isSlash a || !Scheme.file.isSlash b then
        some (behind .file .empty rest)
      else
        let (host, path) := cs.span (!Authority.isEnd .file ·)
        if Path.isDrive host then some (behind .file .empty cs)
        else if host.isEmpty then some (behind .file .empty path)
        else if Authority.isHost .file host then
          some (behind .file { Authority.empty with host } path)
        else none
  | rest => some (behind .file .empty rest)

/-- The URL with an authority, from where that begins. -/
def ofAuthority? (s : Scheme) (rest : List Char) : Option Url :=
  (Authority.read? s rest).map fun (authority, rest) => behind s authority rest

/-- The URL without an authority. -/
def ofPath (rest : List Char) : Url :=
  let (path, query) := pathAndQuery rest
  ⟨.empty, Path.resolve .other path, query⟩

/-- The parts of a URL. -/
def ofText? (text : List Char) : Option Url := do
  let (name, rest) ← Text.splitOnce? ':' (unwrapLines (strip text))
  guard (isSchemeName name)
  match Scheme.ofName name with
  | .web => ofAuthority? .web (rest.dropWhile (Scheme.isSlash .web))
  | .file => ofFile? rest
  | .other =>
      match rest with
      | '/' :: '/' :: cs => ofAuthority? .other cs
      | cs => some (ofPath cs)

end Url

end TableApi
