/-
JSON text as a tree that may break off.

A `Document` records what was written: fields in their order, repeated
keys included, and the place where the text ceased to be JSON. Whoever
reads a typed shape from it walks it in the order of the text, so of two
faults the earlier one is reported: a field of the wrong type before the
break is a fault of shape, the break itself a fault of syntax.

The reader is a pushdown automaton over lexemes. Its stack holds the
containers that are open, so no depth of nesting troubles it, and how
deep a value may be nested is asked only when the value is wanted
(`Document.read`).
-/
import TableApi.Json.Lexeme

namespace TableApi.Json

/-- Why a text does not hold what is wanted. -/
inductive Fault where
  /-- The text is not JSON. -/
  | syntactic
  /-- The text is JSON so far and does not fit. -/
  | shape
deriving DecidableEq

/-- The key of a field; `none` if its escapes are not text. -/
abbrev FieldKey := Option String

inductive Document where
  | null
  | bool (b : Bool)
  | number (n : Option Number)
  | string (s : Option String)
  | array (items : List Document) (closed : Bool)
  | object (fields : List (FieldKey × Document)) (closed : Bool)
  /-- Here a value was due and none was found. -/
  | missing

namespace Document

-- ============================================================== reading

/-- An open container with what it holds so far, last first. -/
inductive Frame where
  | array (items : List Document)
  | object (fields : List (FieldKey × Document))
  /-- An object in which the value of `key` is due. -/
  | field (fields : List (FieldKey × Document)) (key : FieldKey)

/-- What may come next. -/
inductive Due where
  | value
  | firstItem
  | firstKey
  | key
  | colon
  /-- A comma, or the end of the innermost container. -/
  | more

/-- What one lexeme leads to. -/
inductive Move where
  | finished (document : Document)
  | onward (due : Due) (frames : List Frame)
  | stuck

/-- Places a complete value into the innermost open container. -/
def place (v : Document) : List Frame → Move
  | [] => .finished v
  | .array items :: frames => .onward .more (.array (v :: items) :: frames)
  | .field fields key :: frames =>
      .onward .more (.object ((key, v) :: fields) :: frames)
  | .object _ :: _ => .stuck

/-- Starts a value with a lexeme. -/
def start (frames : List Frame) : Lexeme → Move
  | .null => place .null frames
  | .bool b => place (.bool b) frames
  | .number n => place (.number n) frames
  | .string s => place (.string s) frames
  | .arrayStart => .onward .firstItem (.array [] :: frames)
  | .objectStart => .onward .firstKey (.object [] :: frames)
  | _ => .stuck

def move : Due → List Frame → Lexeme → Move
  | .firstItem, .array [] :: frames, .arrayEnd => place (.array [] true) frames
  | .firstItem, frames, l => start frames l
  | .value, frames, l => start frames l
  | .firstKey, .object [] :: frames, .objectEnd => place (.object [] true) frames
  | .firstKey, .object fields :: frames, .string k
  | .key, .object fields :: frames, .string k =>
      .onward .colon (.field fields k :: frames)
  | .colon, frames, .colon => .onward .value frames
  | .more, .array items :: frames, .comma => .onward .value (.array items :: frames)
  | .more, .array items :: frames, .arrayEnd =>
      place (.array items.reverse true) frames
  | .more, .object fields :: frames, .comma => .onward .key (.object fields :: frames)
  | .more, .object fields :: frames, .objectEnd =>
      place (.object fields.reverse true) frames
  | _, _, _ => .stuck

/-- The tree of a text that breaks off: `inner` is the value that was
being read, and every open container stays unclosed. -/
def breakOff (inner : Option Document) : List Frame → Document
  | [] => inner.getD .missing
  | .array items :: frames =>
      breakOff (some (.array (items.reverse ++ inner.toList) false)) frames
  | .object fields :: frames =>
      breakOff (some (.object fields.reverse false)) frames
  | .field fields key :: frames =>
      let field := (key, inner.getD .missing)
      breakOff (some (.object (fields.reverse ++ [field]) false)) frames

/-- Whether a break at this point leaves a value missing. -/
def Due.leavesGap : Due → Bool
  | .value | .colon => true
  | _ => false

/-- Reads one value; beside it the lexemes after it, or `none` if the
text broke off. -/
def run : Due → List Frame → List Lexeme → Document × Option (List Lexeme)
  | due, frames, [] =>
      (breakOff (if due.leavesGap then some .missing else none) frames, none)
  | due, frames, l :: rest =>
      match move due frames l with
      | .finished v => (v, some rest)
      | .onward due frames => run due frames rest
      | .stuck =>
          (breakOff (if due.leavesGap then some .missing else none) frames, none)

/-- The first value of a text. What follows a complete value is not
looked at. -/
def readFirst (text : String) : Document :=
  (run .value [] (Lexeme.lex text.toList)).1

/-- The value of a text that holds one value and nothing else. -/
def readOnly? (text : String) : Option Document :=
  match run .value [] (Lexeme.lex text.toList) with
  | (v, some []) => some v
  | _ => none

-- ========================================================= whole values

mutual

/-- Whether the tree is unbroken. That is all a value needs that is
skipped: its strings and keys need not be text, nor its numbers fit. -/
def isWhole : Document → Bool
  | .missing => false
  | .array items closed => closed && areWhole items
  | .object fields closed => closed && fieldsAreWhole fields
  | _ => true

def areWhole : List Document → Bool
  | [] => true
  | v :: vs => v.isWhole && areWhole vs

def fieldsAreWhole : List (FieldKey × Document) → Bool
  | [] => true
  | (_, v) :: fs => v.isWhole && fieldsAreWhole fs

end

mutual

/-- Whether an unbroken tree has text for its strings and keys, and
numbers that fit. -/
def isSound : Document → Bool
  | .missing => false
  | .number n => n.isSome
  | .string s => s.isSome
  | .array items closed => closed && areSound items
  | .object fields closed => closed && fieldsAreSound fields
  | _ => true

def areSound : List Document → Bool
  | [] => true
  | v :: vs => v.isSound && areSound vs

def fieldsAreSound : List (FieldKey × Document) → Bool
  | [] => true
  | (k, v) :: fs => k.isSome && v.isSound && fieldsAreSound fs

end

mutual

/-- How many containers stand inside one another. -/
def depth : Document → Nat
  | .array items _ => depthOfItems items + 1
  | .object fields _ => depthOfFields fields + 1
  | _ => 0

def depthOfItems : List Document → Nat
  | [] => 0
  | v :: vs => max v.depth (depthOfItems vs)

def depthOfFields : List (FieldKey × Document) → Nat
  | [] => 0
  | (_, v) :: fs => max v.depth (depthOfFields fs)

end

-- =============================================================== values

/-- How deep a text may be nested. -/
def maxDepth : Nat := 127

/-- The fault of a value of the wrong type. A value that is not even a
JSON value is a fault of syntax. -/
def misfit : Document → Fault
  | .missing | .number none | .string none => .syntactic
  | _ => .shape

/-- The key that makes an object stand for the value of a JSON text. It
does so as the first key, with that text as its value and no field after
it. -/
def textKey : String := "$serde_json::private::RawValue"

/-- What the object stands for that has `d` under `textKey`, given how a
text is read. -/
def readText (embedded : String → Option Value) (d : Document) (ends : Bool) :
    Except Fault Value :=
  match d with
  | .string (some text) =>
      match embedded text with
      | some v => if ends then .ok v else .error .syntactic
      | none => .error .shape
  | other => .error other.misfit

mutual

/-- Reads a value that is nested at most `room` deep. Of several faults
the first in the order of the text is reported. -/
def readWith (embedded : String → Option Value) (room : Nat) : Document → Except Fault Value
  | .null => .ok .null
  | .bool b => .ok (.bool b)
  | .number (some n) => .ok (.number n)
  | .string (some s) => .ok (.string s)
  | .array items closed =>
      if room = 0 then .error .syntactic
      else match readItems embedded (room - 1) items with
        | .ok vs => if closed then .ok (.array vs) else .error .syntactic
        | .error fault => .error fault
  | .object fields closed =>
      if room = 0 then .error .syntactic
      else match fields with
        | (some key, d) :: rest =>
            if key = textKey then readText embedded d (closed && rest.isEmpty)
            else match d.readWith embedded (room - 1),
                readFields embedded (room - 1) rest with
              | .ok v, .ok fs =>
                  if closed then .ok (Value.ofFields ((key, v) :: fs))
                  else .error .syntactic
              | .error fault, _ => .error fault
              | _, .error fault => .error fault
        | (none, _) :: _ => .error .syntactic
        | [] => if closed then .ok (.object []) else .error .syntactic
  | _ => .error .syntactic

def readItems (embedded : String → Option Value) (room : Nat) :
    List Document → Except Fault (List Value)
  | [] => .ok []
  | d :: ds =>
      match d.readWith embedded room, readItems embedded room ds with
      | .ok v, .ok vs => .ok (v :: vs)
      | .error fault, _ => .error fault
      | _, .error fault => .error fault

def readFields (embedded : String → Option Value) (room : Nat) :
    List (FieldKey × Document) → Except Fault (List (String × Value))
  | [] => .ok []
  | (none, _) :: _ => .error .syntactic
  | (some key, d) :: fields =>
      match d.readWith embedded room, readFields embedded room fields with
      | .ok v, .ok fs => .ok ((key, v) :: fs)
      | .error fault, _ => .error fault
      | _, .error fault => .error fault

end

mutual

/-- The tree of a value. -/
def ofValue : Value → Document
  | .null => .null
  | .bool b => .bool b
  | .number n => .number (some n)
  | .string s => .string (some s)
  | .array items => .array (ofItems items) true
  | .object fields => .object (ofFields fields) true

def ofItems : List Value → List Document
  | [] => []
  | v :: vs => ofValue v :: ofItems vs

def ofFields : List (String × Value) → List (FieldKey × Document)
  | [] => []
  | (k, v) :: fs => (some k, ofValue v) :: ofFields fs

end

end Document

namespace Value

/-- The value of a JSON text in which texts are embedded in one another
fewer than `levels` times. -/
def readUpTo? : Nat → String → Option Value
  | 0, _ => none
  | levels + 1, text =>
      (Document.readOnly? text).bind fun d =>
        (d.readWith (readUpTo? levels) Document.maxDepth).toOption

/-- The value of a JSON text: one value and nothing after it, nested at
most `Document.maxDepth` deep. A text embedded in another is shorter than
that, so the length of the text bounds the levels. -/
def read? (text : String) : Option Value := readUpTo? text.length text

end Value

namespace Document

/-- Reads a value that is nested at most `room` deep. -/
def read (room : Nat) (d : Document) : Except Fault Value := d.readWith Value.read? room

/-- The JSON value of an unbroken tree. Of several fields with one key
the last counts. -/
def value? (d : Document) : Option Value := (d.read d.depth).toOption

end Document

end TableApi.Json
