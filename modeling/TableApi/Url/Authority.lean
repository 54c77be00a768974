/-
The authority of a URL: user and password, host and port.
-/
import TableApi.Numeric.Range
import TableApi.Url.Domain
import TableApi.Url.Scheme

namespace TableApi.Url

/-- Who is addressed on which host. The port is not kept. -/
structure Authority where
  user : List Char
  password : List Char
  host : List Char

namespace Authority

/-- No user and no host. -/
def empty : Authority := ⟨[], [], []⟩

/-- Whether a character ends the authority. -/
def isEnd (s : Scheme) (c : Char) : Bool := s.isSlash c ∨ c = '?' ∨ c = '#'

-- ================================================================= host

/-- Characters that no host has. -/
def isHostChar (c : Char) : Bool :=
  !(['\x00', ' ', '#', '/', ':', '<', '>', '?', '@', '[', '\\', ']', '^', '|'].contains c)

/-- An address in brackets, or a name: a domain name, where the scheme
asks for one, and else any text of host characters. -/
def isHost (s : Scheme) (cs : List Char) : Bool :=
  match cs with
  | '[' :: rest => rest.getLast? == some ']' && Address.isV6 rest.dropLast
  | cs =>
      if s = .other then cs.all isHostChar
      else (Percent.decodeText? cs).any Domain.isName

/-- Cuts off the host. It ends at a colon outside brackets or at the end
of the authority. -/
def takeHost (s : Scheme) : (bracketed : Bool) → List Char → List Char × List Char
  | _, [] => ([], [])
  | bracketed, c :: cs =>
      if c = ':' ∧ !bracketed ∨ isEnd s c then ([], c :: cs)
      else
        let (host, rest) := takeHost s (c = '[' || bracketed && c ≠ ']') cs
        (c :: host, rest)

-- ================================================================= port

/-- The text after the port, if there is one: a colon and digits, or no
digits, for a number of at most 16 bits. -/
def afterPort? : List Char → Option (List Char)
  | ':' :: cs =>
      let (digits, rest) := cs.span Char.isDigit
      let fits := digits.isEmpty || (Decimal.nat? digits).any (· ≤ nat16Max)
      if fits && rest.head?.all ['/', '\\', '?', '#'].contains then some rest else none
  | cs => some cs

-- ================================================================= user

/-- Cuts at the last `@` of the authority, if there is one. -/
def splitUser (s : Scheme) (cs : List Char) : Option (List Char) × List Char :=
  let front := cs.takeWhile (!isEnd s ·)
  match (front.reverse.dropWhile (· ≠ '@')).reverse.dropLast with
  | [] => if front.contains '@' then (some [], cs.drop 1) else (none, cs)
  | user => (some user, cs.drop (user.length + 1))

/-- Reads an authority; beside it the text that follows. A port needs a
host, and so does a user, unless name and password are empty. Right
behind an `@` without a user the authority does not end. -/
def read? (s : Scheme) (cs : List Char) : Option (Authority × List Char) := do
  let (user, rest) := splitUser s cs
  guard (user ≠ some [] ∨ !rest.head?.any (isEnd s))
  let (host, rest) := takeHost s false rest
  guard (isHost s host)
  guard (!host.isEmpty ∨ rest.head? ≠ some ':' ∧ user.all fun u => u = [] ∨ u = [':'])
  let rest ← afterPort? rest
  let user := user.getD []
  let (name, password) := (Text.splitOnce? ':' user).getD (user, [])
  return (⟨name, password, host⟩, rest)

end Authority

end TableApi.Url
