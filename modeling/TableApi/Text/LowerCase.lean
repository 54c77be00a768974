/-
Lower case of a whole text.

Every character is mapped on its own, with two exceptions of the
standard: capital I with a dot becomes an i and a combining dot, and a
capital sigma becomes the final form at the end of a word, that is when
a cased letter stands before it and none after it, case-ignorable
characters between them not counted. The second makes lowering depend on
context: the lower case of a piece need not be a piece of the lower case
of the whole.
-/
import TableApi.Text.CaseTables

namespace TableApi.Text

/-- Whether a number lies in one of the ranges. -/
def inRanges (ranges : List (Nat × Nat)) (n : Nat) : Bool :=
  ranges.any fun (first, last) => first ≤ n ∧ n ≤ last

def isCased (c : Char) : Bool := inRanges casedRanges c.toNat

def isCaseIgnorable (c : Char) : Bool := inRanges caseIgnorableRanges c.toNat

/-- Whether a number is in a run. -/
def CaseRun.holds (run : CaseRun) (n : Nat) : Bool :=
  run.first ≤ n ∧ n ≤ run.last ∧ (n - run.first) % run.step = 0

/-- Where one of the runs moves a character, if one holds it. -/
def moved? (runs : List CaseRun) (c : Char) : Option Char :=
  (runs.find? (·.holds c.toNat)).map fun run => Char.ofNat (Int.toNat (c.toNat + run.offset))

/-- The simple lower-case form of a character; most characters are their
own. -/
def lowerChar (c : Char) : Char :=
  if c.toNat < 0x80 then c.toLower else (moved? lowerRuns c).getD c

/-- Whether the next character that is not case-ignorable is cased. -/
def reachesCased (cs : List Char) : Bool :=
  match cs.dropWhile isCaseIgnorable with
  | c :: _ => isCased c
  | [] => false

/-- Lower case of the rest of a text, given what stands before it, last
character first. -/
def lowerFrom (before : List Char) : List Char → List Char
  | [] => []
  | c :: after =>
      let image :=
        if c = 'Σ' then
          if reachesCased before && !reachesCased after then ['ς'] else ['σ']
        else if c = 'İ' then ['i', '\u0307']
        else [lowerChar c]
      image ++ lowerFrom (c :: before) after

/-- The lower case of a text. -/
def lower (cs : List Char) : List Char := lowerFrom [] cs

end TableApi.Text
