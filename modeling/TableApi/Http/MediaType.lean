/-
Media types, as the header of a request names them.

A type is `type/subtype`, then parameters behind semicolons, each a name
and a token or a quoted string. JSON is `application/json` or a subtype
of `application` with the suffix `+json`, in letters of any case.
-/
import TableApi.Text.Ascii
import TableApi.Text.Split

namespace TableApi.Http.MediaType

/-- The characters of a token. -/
def isTokenChar (c : Char) : Bool :=
  c.isAlphanum || "!#$%&'*+-.^_`|~".toList.contains c

def isToken (cs : List Char) : Bool := !cs.isEmpty && cs.all isTokenChar

/-- Where a reader of parameters stands. -/
inductive State where
  /-- Blanks or a name are due. -/
  | start
  | name
  | value (empty : Bool)
  | quoted (empty : Bool)
  /-- Behind a quoted string. -/
  | closed

/-- The state after a character; `none` where it has no place. -/
def step : State → Char → Option State
  | .start, ' ' => some .start
  | .start, c => if isTokenChar c then some .name else none
  | .name, '=' => some (.value true)
  | .name, c => if isTokenChar c then some .name else none
  | .value true, '"' => some (.quoted true)
  | .value false, ';' => some .start
  | .value _, c => if isTokenChar c then some (.value false) else none
  | .quoted false, '"' => some .closed
  | .quoted _, c =>
      if 31 < c.toNat ∧ c.toNat ≠ 127 then some (.quoted false) else none
  | .closed, ';' => some .start
  | .closed, c => if c = ' ' then some .closed else none

/-- Whether parameters may end in a state. -/
def State.mayEnd : State → Bool
  | .start | .value _ | .closed => true
  | .name | .quoted _ => false

/-- Whether a text lists parameters, from a state on. -/
def areParameters : State → List Char → Bool
  | state, [] => state.mayEnd
  | state, c :: cs =>
      match step state c with
      | some state => areParameters state cs
      | none => false

/-- Subtype and suffix: the suffix stands behind the last plus sign,
which is not the first character. -/
def splitSuffix (subtype : List Char) : List Char × Option (List Char) :=
  let (suffixReversed, rest) := subtype.reverse.span (· ≠ '+')
  match rest with
  | _ :: first :: more => ((first :: more).reverse, some suffixReversed.reverse)
  | _ => (subtype, none)

/-- Whether type and subtype name JSON. -/
def namesJson (type subtype : List Char) : Bool :=
  let (subtype, suffix) := splitSuffix subtype
  let json := "json".toList
  Text.sameAscii type "application".toList
    && (Text.sameAscii subtype json || suffix.any (Text.sameAscii · json))

/-- A blank or a visible character of ASCII. -/
def isHeaderChar (c : Char) : Bool := c = '\t' ∨ (32 ≤ c.toNat ∧ c.toNat ≤ 126)

/-- Whether a header names JSON. -/
def isJson (header : String) : Bool :=
  let cs := header.toList
  let (names, parameters) := (Text.splitOnce? ';' cs).getD (cs, [])
  match Text.splitOnce? '/' names with
  | some (type, subtype) =>
      cs.all isHeaderChar && isToken type && isToken subtype
        && areParameters .start parameters && namesJson type subtype
  | none => false

end TableApi.Http.MediaType
