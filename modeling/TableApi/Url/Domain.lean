/-
Domain names of hosts.

A name is a row of labels with dots between them. It may be written with
characters beyond ASCII, many of which stand for others or are left out;
what then matters is which ASCII text comes of it, and whether a label
that is not ASCII is well formed. A label that begins with `xn--` holds
such a label in punycode, and has to be written as the characters that
others stand for. A name whose last label is a number is an address.
-/
import TableApi.Encoding.Percent
import TableApi.Text.LowerCase
import TableApi.Url.Address
import TableApi.Url.DomainTables
import TableApi.Url.Punycode

namespace TableApi.Url.Domain

def isIn (ranges : List (Nat × Nat)) (c : Char) : Bool := Text.inRanges ranges c.toNat

def isAscii (c : Char) : Bool := c.toNat < 0x80

-- ============================================================== mapping

/-- The text of several ASCII characters that a character stands for. -/
def asciiText? (c : Char) : Option (List Char) :=
  asciiTexts.findSome? fun (first, texts) =>
    if first ≤ c.toNat then (texts[c.toNat - first]?).map String.toList else none

/-- What a character of a name stands for, as far as that is ASCII; other
characters are kept. `none` if the character is not allowed. -/
def image? (c : Char) : Option (List Char) :=
  if isAscii c then some [c.toLower]
  else if !isIn allowedRanges c then none
  else if isIn ignoredRanges c then some []
  else match Text.moved? asciiRuns c with
    | some a => some [a]
    | none => some ((asciiText? c).getD [c])

/-- The text that a name stands for. -/
def mapped? (cs : List Char) : Option (List Char) := (cs.mapM image?).map List.flatten

/-- Whether a character stands for itself. -/
def isFinal (c : Char) : Bool :=
  if isAscii c then c.toLower = c
  else isIn allowedRanges c && !isIn ignoredRanges c
    && !mappedRuns.any fun (first, last, step) =>
      first ≤ c.toNat ∧ c.toNat ≤ last ∧ (c.toNat - first) % step = 0

/-- ASCII characters that no name has. -/
def isForbidden (c : Char) : Bool :=
  c.toNat ≤ 0x20 ∨ c.toNat = 0x7F ∨ "#%/:<>?@[\\]^|".toList.contains c

-- =============================================================== labels

def isMark (c : Char) : Bool := isIn markRanges c

/-- Whether each joiner stands where it has an effect, given the
characters before, last first. Both may follow a virama, and the one that
keeps letters apart may stand between letters that would join. -/
def joinersFit (before : List Char) : List Char → Bool
  | [] => true
  | c :: after =>
      let afterVirama := before.head?.any (isIn viramaRanges)
      let isApart := ((before.dropWhile isMark).head?.any fun b =>
          isIn dualJoiningRanges b || isIn leftJoiningRanges b)
        && (after.dropWhile isMark).head?.any fun a =>
          isIn dualJoiningRanges a || isIn rightJoiningRanges a
      let fits :=
        if c = '\u200C' then afterVirama || isApart
        else if c = '\u200D' then afterVirama
        else true
      fits && joinersFit (c :: before) after

/-- A label begins with no mark. -/
def isWellFormed (label : List Char) : Bool :=
  !label.head?.any isMark && joinersFit [] label

/-- The label that is written so; `none` if none is. -/
def label? (written : List Char) : Option (List Char) :=
  if "xn--".toList.isPrefixOf written then do
    guard (written.all isAscii)
    let label ← Punycode.decode? (written.drop 4)
    guard (!label.all isAscii && label.all isFinal && isWellFormed label)
    return label
  else if isWellFormed written then some written
  else none

-- ============================================================ direction

/-- Which way a character runs. -/
inductive Flow where
  | leftToRight
  | rightToLeft
  | digit
  | arabicDigit
  | mark
  | neutral
deriving DecidableEq

/-- The flow of a character. -/
def flow (c : Char) : Flow :=
  if isAscii c then
    if c.isAlpha then .leftToRight else if c.isDigit then .digit else .neutral
  else if isIn rightToLeftRanges c then .rightToLeft
  else if isIn arabicDigitRanges c then .arabicDigit
  else if isIn digitRanges c then .digit
  else if isMark c then .mark
  else if isIn neutralRanges c then .neutral
  else .leftToRight

/-- Whether a label runs one way from its first character to its last. -/
def isOneWay (label : List Flow) : Bool :=
  let last := (label.reverse.dropWhile (· = .mark)).head?
  match label.head? with
  | none => true
  | some .rightToLeft =>
      label.all (· ≠ .leftToRight)
        && !(label.contains .digit && label.contains .arabicDigit)
        && last.any [.rightToLeft, .digit, .arabicDigit].contains
  | some .leftToRight =>
      label.all (fun f => f ≠ .rightToLeft ∧ f ≠ .arabicDigit)
        && last.any [.leftToRight, .digit].contains
  | some _ => false

/-- Where anything in a name runs from right to left, every label runs one
way. -/
def flowsFit (labels : List (List Char)) : Bool :=
  let flows := labels.map (·.map flow)
  let turns := flows.any fun fs => fs.contains .rightToLeft || fs.contains .arabicDigit
  !turns || flows.all isOneWay

-- ================================================================ names

/-- Whether a text is the name of a host, or its address in numbers. -/
def isName (text : List Char) : Bool :=
  match mapped? text with
  | none => false
  | some name =>
      let written := name.splitOn '.'
      !name.isEmpty && !name.any isForbidden
        && (written.mapM label?).any flowsFit
        && (!Address.endsInNumber written || Address.isByNumbers written)

end TableApi.Url.Domain
