/-
Schemes: what a URL has before its first colon.
-/
import TableApi.Text.Ascii
import TableApi.Text.Split

namespace TableApi.Url

/-- How the rest of a URL is to be read. -/
inductive Scheme where
  /-- A host with a domain name is required; slashes may be any number of
  slashes and backslashes. -/
  | web
  /-- A file, possibly on a host; slashes may be backslashes. -/
  | file
  | other
deriving DecidableEq

namespace Scheme

/-- The kind of a scheme with this name. -/
def ofName (name : List Char) : Scheme :=
  let name := String.ofList (Text.asciiLower name)
  if name = "file" then file
  else if ["http", "https", "ws", "wss", "ftp"].contains name then web
  else other

/-- Whether a character separates the segments of a path. -/
def isSlash (s : Scheme) (c : Char) : Bool := c = '/' ∨ c = '\\' ∧ s ≠ other

end Scheme

def isSchemeChar (c : Char) : Bool :=
  c.isAlphanum ∨ c = '+' ∨ c = '-' ∨ c = '.'

/-- A letter, and then letters, digits and a few signs. -/
def isSchemeName : List Char → Bool
  | [] => false
  | c :: cs => c.isAlpha && cs.all isSchemeChar

/-- What follows the scheme and two slashes, if a text begins with them. -/
def afterSlashes? (cs : List Char) : Option (List Char) :=
  match Text.splitOnce? ':' cs with
  | some (scheme, '/' :: '/' :: rest) => if scheme.all isSchemeChar then some rest else none
  | _ => none

end TableApi.Url
