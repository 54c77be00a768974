/-
The text of a value, read.

The text of a value falls into lexemes (`Value.lexemes`), the same whatever
stands behind it as long as that does not go on with a number
(`lexes_chars`). From its lexemes the automaton builds one tree, whichever
containers are open around it (`run_lexemes`). It is the tree of the value,
but that a number is read for itself and may come out as another, or as
none (`written`). So the text of every value is JSON and has the depth of
the value (`readOnly?_text`, `depth_written`).
-/
import Mathlib.Data.List.Forall2
import TableApi.Json.Document
import TableApi.Proofs.Json.NumberText

namespace TableApi.Json

-- ================================================================ strings

namespace Lexeme

/-- The escape of a control character names the character. -/
theorem unit?_hexDigits :
    ∀ n < 0x20, unit? '0' '0' (hexDigit (n / 16)) (hexDigit (n % 16)) = some n := by
  decide

/-- A text inside quotes is one piece, and the piece is a character. -/
structure Spells (text : List Char) (piece : Piece) (c : Char) : Prop where
  read : ∀ cs, pieces? (text ++ cs) = (pieces? cs).map fun (ps, rest) => (piece :: ps, rest)
  joined : ∀ ps, join? (piece :: ps) = (join? ps).map (c :: ·)

section Spelling

variable {c : Char}

/-- A simple escape spells its character. -/
theorem spells_simple {e : Char} (h : simpleEscape? e = some c) (hunit : e ≠ 'u') :
    Spells ['\\', e] (.char c) c where
  joined _ := rfl
  read cs := by
    rw [List.cons_append, List.cons_append, List.nil_append, pieces?, h]
    · cases pieces? cs <;> rfl
    · exact fun _ _ _ _ _ heq _ => hunit heq

/-- A control character is spelled by its number in four hexadecimal digits.
-/
theorem spells_control (h : c.toNat < 0x20) :
    Spells ['\\', 'u', '0', '0', hexDigit (c.toNat / 16), hexDigit (c.toNat % 16)]
      (.unit c.toNat) c where
  joined ps := by
    rw [join?.eq_def]
    dsimp only
    rw [if_pos (.inl (by omega)), Char.ofNat_toNat]
  read cs := by
    simp only [List.cons_append, List.nil_append, pieces?, unit?_hexDigits _ h]
    cases pieces? cs <;> rfl

/-- Any other character but the quote and the backslash spells itself. -/
theorem spells_bare (hquote : c ≠ '"') (hbackslash : c ≠ '\\') (h : ¬ c.toNat < 0x20) :
    Spells [c] (.char c) c where
  joined _ := rfl
  read cs := by
    rw [List.cons_append, List.nil_append, pieces?, if_neg h]
    · exact hquote
    · exact fun _ _ _ _ _ heq => absurd heq hbackslash
    · exact fun _ _ heq => absurd heq hbackslash

/-- The text that stands for a character inside quotes is one piece. -/
theorem spells_escaped (c : Char) : ∃ piece, Spells (escaped c) piece c := by
  unfold escaped
  by_cases hquote : c = '"'
  · subst hquote; exact ⟨_, spells_simple rfl (by decide)⟩
  by_cases hbackslash : c = '\\'
  · subst hbackslash; exact ⟨_, spells_simple rfl (by decide)⟩
  rw [if_neg hquote, if_neg hbackslash]
  iterate 5
    split
    · subst c; exact ⟨_, spells_simple rfl (by decide)⟩
  split
  case isTrue h => exact ⟨_, spells_control h⟩
  case isFalse h => exact ⟨_, spells_bare hquote hbackslash h⟩

end Spelling

/-- The text of a string in quotes, behind the first quote, is read to the
second one. -/
theorem pieces?_escaped (cs rest : List Char) :
    ∃ ps, pieces? (cs.flatMap escaped ++ '"' :: rest) = some (ps, rest) ∧ join? ps = some cs := by
  induction cs with
  | nil => exact ⟨[], rfl, rfl⟩
  | cons c cs ih =>
      obtain ⟨piece, hpiece⟩ := spells_escaped c
      obtain ⟨ps, hread, hjoined⟩ := ih
      refine ⟨piece :: ps, ?_, ?_⟩
      · rw [List.flatMap_cons, List.append_assoc, hpiece.read, hread]
        rfl
      · rw [hpiece.joined, hjoined]
        rfl

/-- A quoted text is one lexeme, wherever it stands. -/
theorem next?_quotedText (s : String) (rest : List Char) :
    next? (quotedText s ++ rest) = some (.string (some s), rest) := by
  obtain ⟨ps, hread, hjoined⟩ := pieces?_escaped s.toList rest
  have htext : quotedText s ++ rest = '"' :: (s.toList.flatMap escaped ++ '"' :: rest) := by
    simp [quotedText]
  rw [htext, next?, hread]
  simp only [Option.map_some, hjoined, String.ofList_toList]

-- ================================================================= lexing

/-- These lexemes stand one behind the other, without space, at the start of
the text, and the rest is left. -/
inductive Lexes : List Char → List Lexeme → List Char → Prop
  | nil (rest : List Char) : Lexes rest [] rest
  | cons (text : List Char) {before rest : List Char} {l : Lexeme} {ls : List Lexeme} :
      text ≠ [] → next? (text ++ before) = some (l, before) → Lexes before ls rest →
        Lexes (text ++ before) (l :: ls) rest

/-- Lexemes behind lexemes stand one after the other. -/
theorem Lexes.append {first between rest : List Char} {ls ms : List Lexeme}
    (h : Lexes first ls between) (hrest : Lexes between ms rest) : Lexes first (ls ++ ms) rest := by
  induction h with
  | nil => exact hrest
  | cons text htext hnext _ ih => exact .cons text htext hnext (ih hrest)

/-- Where a lexeme starts, there is no space. -/
theorem dropWhile_of_next? {cs : List Char} {found : Lexeme × List Char}
    (h : next? cs = some found) : cs.dropWhile isSpace = cs := by
  cases cs with
  | nil => rfl
  | cons c cs =>
      have hspace : isSpace c = false := by
        rw [Bool.eq_false_iff]
        intro hspace
        simp only [isSpace, Bool.decide_or, Bool.or_eq_true, decide_eq_true_eq] at hspace
        rcases hspace with rfl | rfl | rfl | rfl <;> cases h
      rw [List.dropWhile_cons, hspace]
      rfl

/-- A bound of the length of the text is enough to take them one by one. -/
theorem Lexes.lexAtMost {cs rest : List Char} {ls : List Lexeme} (h : Lexes cs ls rest) :
    ∀ n, cs.length ≤ n → ∃ m, lexAtMost n cs = ls ++ lexAtMost m rest := by
  induction h with
  | nil => exact fun n _ => ⟨n, rfl⟩
  | @cons text before rest l ls htext hnext _ ih =>
      intro n hn
      have hlength : 0 < text.length := List.length_pos_iff.2 htext
      rw [List.length_append] at hn
      obtain ⟨n, rfl⟩ := Nat.exists_eq_succ_of_ne_zero (show n ≠ 0 by omega)
      obtain ⟨m, hrest⟩ := ih n (by omega)
      refine ⟨m, ?_⟩
      rw [Lexeme.lexAtMost, dropWhile_of_next? hnext]
      split
      next heq => exact absurd (List.append_eq_nil_iff.1 heq).1 htext
      next => simp only [hnext, hrest, List.cons_append]

/-- A text that is nothing but these lexemes is cut into them. -/
theorem Lexes.lex {cs : List Char} {ls : List Lexeme} (h : Lexes cs ls []) : lex cs = ls := by
  obtain ⟨m, hlex⟩ := h.lexAtMost cs.length (Nat.le_refl _)
  rw [Lexeme.lex, hlex]
  cases m <;> exact List.append_nil ls

/-- A number has a text. -/
theorem numberText_ne_nil (n : Number) : n.text ≠ [] := by
  intro hnil
  have hread := n.read_text_append Literal.ends_nil
  rw [hnil] at hread
  cases hread

/-- Where a literal may end, the text of a number is one lexeme. -/
theorem next?_numberText (n : Number) {rest : List Char} (h : Literal.Ends rest) :
    next? (n.text ++ rest) = some (.number n.reread?, rest) := by
  have hread := n.read_text_append h
  unfold next?
  split
  case h_11 => rw [hread, Option.map_some]
  all_goals next heq => rw [heq] at hread; cases hread

/-- Lexemes with commas between them. -/
def commaSeparated : List (List Lexeme) → List Lexeme
  | [] => []
  | [ls] => ls
  | ls :: lss => ls ++ .comma :: commaSeparated lss

/-- All but the first have a comma in front. -/
theorem commaSeparated_cons (ls : List Lexeme) (lss : List (List Lexeme)) :
    commaSeparated (ls :: lss) = ls ++ lss.flatMap (.comma :: ·) := by
  induction lss generalizing ls with
  | nil => exact (List.append_nil ls).symm
  | cons ms lss ih => exact congrArg (ls ++ .comma :: ·) (ih ms)

end Lexeme

-- ================================================================= printing

mutual

/-- The lexemes in the text of a value. -/
def Value.lexemes : Value → List Lexeme
  | .null => [.null]
  | .bool b => [.bool b]
  | .number n => [.number n.reread?]
  | .string s => [.string (some s)]
  | .array items => .arrayStart :: Lexeme.commaSeparated (itemLexemes items) ++ [.arrayEnd]
  | .object fields => .objectStart :: Lexeme.commaSeparated (fieldLexemes fields) ++ [.objectEnd]

def itemLexemes : List Value → List (List Lexeme)
  | [] => []
  | v :: vs => v.lexemes :: itemLexemes vs

def fieldLexemes : List (String × Value) → List (List Lexeme)
  | [] => []
  | (k, v) :: fs => (.string (some k) :: .colon :: v.lexemes) :: fieldLexemes fs

end

open Lexeme

/-- The text falls into these lexemes, wherever it stands. -/
def Prints (text : List Char) (ls : List Lexeme) : Prop :=
  ∀ rest, Literal.Ends rest → Lexes (text ++ rest) ls rest

/-- A mark ends a number. -/
theorem ends_mark {c : Char} {rest : List Char} (h : c ∈ [',', ']', '\x7d']) :
    Literal.Ends (c :: rest) := by
  intro d hd
  obtain rfl : c = d := Option.some.inj hd
  simp only [List.mem_cons, List.not_mem_nil, or_false] at h
  rcases h with rfl | rfl | rfl <;> decide

/-- A mark prints itself. -/
theorem prints_mark {c : Char} {l : Lexeme} (h : ∀ rest, next? (c :: rest) = some (l, rest)) :
    Prints [c] [l] :=
  fun rest _ => .cons [c] (List.cons_ne_nil c []) (h rest) (.nil rest)

/-- Texts with commas between them print their lexemes with commas between
them. -/
theorem prints_commaSeparated {texts : List (List Char)} {lss : List (List Lexeme)}
    (h : List.Forall₂ Prints texts lss) :
    Prints (Json.commaSeparated texts) (Lexeme.commaSeparated lss) := by
  induction h with
  | nil => exact fun rest _ => .nil rest
  | @cons text ls texts lss hfirst hmore ih =>
      cases hmore with
      | nil => exact hfirst
      | cons hsecond hmore =>
          intro rest hrest
          rw [Json.commaSeparated, Lexeme.commaSeparated, List.append_assoc]
          · refine (hfirst _ (ends_mark List.mem_cons_self)).append ?_
            exact .cons [','] (List.cons_ne_nil _ _) rfl (ih rest hrest)
          · exact nofun
          · exact nofun

/-- A list of texts between marks. -/
theorem prints_between {first last : Char} {start stop : Lexeme} {texts : List (List Char)}
    {lss : List (List Lexeme)} (hstart : ∀ rest, next? (first :: rest) = some (start, rest))
    (hstop : ∀ rest, next? (last :: rest) = some (stop, rest)) (hlast : last ∈ [',', ']', '\x7d'])
    (h : List.Forall₂ Prints texts lss) :
    Prints (first :: Json.commaSeparated texts ++ [last])
      (start :: Lexeme.commaSeparated lss ++ [stop]) := by
  intro rest hrest
  have hinner := prints_commaSeparated h (last :: rest) (ends_mark hlast)
  have hend := prints_mark hstop rest hrest
  rw [List.append_assoc, List.cons_append, List.cons_append]
  exact .cons [first] (List.cons_ne_nil _ _) (hstart _) (hinner.append hend)

mutual

/-- The text of a value falls into the lexemes of the value. -/
theorem prints_chars : ∀ v : Value, Prints v.chars v.lexemes
  | .null => fun rest _ => .cons ['n', 'u', 'l', 'l'] nofun rfl (.nil rest)
  | .bool true => fun rest _ => .cons ['t', 'r', 'u', 'e'] nofun rfl (.nil rest)
  | .bool false => fun rest _ => .cons ['f', 'a', 'l', 's', 'e'] nofun rfl (.nil rest)
  | .number n => fun rest hrest =>
      .cons n.text (numberText_ne_nil n) (next?_numberText n hrest) (.nil rest)
  | .string s => fun rest _ => .cons (quotedText s) nofun (next?_quotedText s rest) (.nil rest)
  | .array items =>
      prints_between (fun _ => rfl) (fun _ => rfl) (by decide) (prints_itemTexts items)
  | .object fields =>
      prints_between (fun _ => rfl) (fun _ => rfl) (by decide) (prints_fieldTexts fields)

/-- The items of an array print their lexemes. -/
theorem prints_itemTexts (items : List Value) :
    List.Forall₂ Prints (itemTexts items) (itemLexemes items) := by
  cases items with
  | nil => exact .nil
  | cons v vs => exact .cons (prints_chars v) (prints_itemTexts vs)

/-- The fields of an object print their lexemes. -/
theorem prints_fieldTexts : ∀ fields : List (String × Value),
    List.Forall₂ Prints (fieldTexts fields) (fieldLexemes fields)
  | [] => .nil
  | (k, v) :: fs => by
      refine .cons (fun rest hrest => ?_) (prints_fieldTexts fs)
      have hcolon : Lexes (':' :: (v.chars ++ rest)) (.colon :: v.lexemes) rest :=
        .cons [':'] (List.cons_ne_nil _ _) rfl (prints_chars v rest hrest)
      rw [List.append_assoc]
      exact .cons (quotedText k) nofun (next?_quotedText k _) hcolon

end

-- ================================================================ building

namespace Document

mutual

/-- The tree that the text of a value is read as. -/
def written : Value → Document
  | .null => .null
  | .bool b => .bool b
  | .number n => .number n.reread?
  | .string s => .string (some s)
  | .array items => .array (writtenItems items) true
  | .object fields => .object (writtenFields fields) true

def writtenItems : List Value → List Document
  | [] => []
  | v :: vs => written v :: writtenItems vs

def writtenFields : List (String × Value) → List (FieldKey × Document)
  | [] => []
  | (k, v) :: fs => (some k, written v) :: writtenFields fs

end

/-- What becomes of the lexemes that are left after a move. -/
def Move.resume : Move → List Lexeme → Document × Option (List Lexeme)
  | .finished v, rest => (v, some rest)
  | .onward due frames, rest => run due frames rest
  | .stuck, _ => (.missing, none)

/-- A value may come next. -/
inductive Awaits : Due → List Frame → Prop
  | text : Awaits .value []
  | firstItem {frames : List Frame} : Awaits .firstItem (.array [] :: frames)
  | item {items : List Document} {frames : List Frame} : Awaits .value (.array items :: frames)
  | field {fields : List (FieldKey × Document)} {key : FieldKey} {frames : List Frame} :
      Awaits .value (.field fields key :: frames)

section Running

variable {due : Due} {frames : List Frame} {l : Lexeme}

/-- A run goes on with the lexemes that are left after a move. -/
theorem run_of_move {m : Move} (h : move due frames l = m) (hm : m ≠ .stuck)
    (rest : List Lexeme) : run due frames (l :: rest) = m.resume rest := by
  rw [run, h]
  cases m with
  | stuck => exact absurd rfl hm
  | finished | onward => rfl

/-- There is a place for the value that may come next. -/
theorem Awaits.place_ne_stuck (h : Awaits due frames) (d : Document) :
    place d frames ≠ .stuck := by
  cases h <;> exact nofun

/-- Where a value may come next a lexeme starts it, unless it ends the
array. -/
theorem Awaits.move_eq_start (h : Awaits due frames) (hl : l ≠ .arrayEnd) :
    move due frames l = start frames l := by
  cases h <;> cases l <;> first | rfl | exact absurd rfl hl

/-- A value of one lexeme. -/
theorem Awaits.run_single (h : Awaits due frames) {d : Document} (hl : l ≠ .arrayEnd)
    (hstart : start frames l = place d frames) (rest : List Lexeme) :
    run due frames (l :: rest) = (place d frames).resume rest :=
  run_of_move ((h.move_eq_start hl).trans hstart) (h.place_ne_stuck d) rest

/-- A container is opened. -/
theorem Awaits.run_open (h : Awaits due frames) {due' : Due} {frame : Frame} (hl : l ≠ .arrayEnd)
    (hstart : start frames l = .onward due' (frame :: frames)) (rest : List Lexeme) :
    run due frames (l :: rest) = run due' (frame :: frames) rest :=
  run_of_move ((h.move_eq_start hl).trans hstart) nofun rest

/-- A container is closed. -/
theorem Awaits.run_close (h : Awaits due frames) (due' : Due) (frame : Frame) {d : Document}
    (hmove : move due' (frame :: frames) l = place d frames) (rest : List Lexeme) :
    run due' (frame :: frames) (l :: rest) = (place d frames).resume rest :=
  run_of_move hmove (h.place_ne_stuck d) rest

mutual

/-- The lexemes of a value make one tree, which is put where a value was
due. -/
theorem run_lexemes : ∀ (v : Value) {due : Due} {frames : List Frame}, Awaits due frames →
    ∀ rest, run due frames (v.lexemes ++ rest) = (place (written v) frames).resume rest
  | .null, _, _, h, rest => h.run_single (l := .null) nofun rfl rest
  | .bool b, _, _, h, rest => h.run_single (l := .bool b) nofun rfl rest
  | .number n, _, _, h, rest => h.run_single (l := .number n.reread?) nofun rfl rest
  | .string s, _, _, h, rest => h.run_single (l := .string (some s)) nofun rfl rest
  | .array [], _, _, h, rest =>
      (h.run_open (l := .arrayStart) nofun rfl _).trans (h.run_close .firstItem _ rfl rest)
  | .array (v :: vs), due, frames, h, rest => by
      have hitems := run_items vs [written v] frames (.arrayEnd :: rest)
      have hclose := h.run_close .more (l := .arrayEnd)
        (.array ((writtenItems vs).reverse ++ [written v])) rfl rest
      rw [List.reverse_append, List.reverse_reverse] at hclose
      rw [Value.lexemes, itemLexemes, commaSeparated_cons]
      simp only [List.append_assoc, List.cons_append, List.nil_append]
      rw [h.run_open (l := .arrayStart) nofun rfl, run_lexemes v .firstItem]
      exact hitems.trans hclose
  | .object [], _, _, h, rest =>
      (h.run_open (l := .objectStart) nofun rfl _).trans (h.run_close .firstKey _ rfl rest)
  | .object ((key, v) :: fields), due, frames, h, rest => by
      have hfields := run_fields fields [(some key, written v)] frames (.objectEnd :: rest)
      have hclose := h.run_close .more (l := .objectEnd)
        (.object ((writtenFields fields).reverse ++ [(some key, written v)])) rfl rest
      have hkey : ∀ rest, run .firstKey (.object [] :: frames)
            (.string (some key) :: .colon :: rest)
          = run .value (.field [] (some key) :: frames) rest := fun _ => rfl
      rw [List.reverse_append, List.reverse_reverse] at hclose
      rw [Value.lexemes, fieldLexemes, commaSeparated_cons]
      simp only [List.append_assoc, List.cons_append, List.nil_append]
      rw [h.run_open (l := .objectStart) nofun rfl, hkey, run_lexemes v .field]
      exact hfields.trans hclose

/-- Items behind others are put into the innermost array, the last one in
front. -/
theorem run_items : ∀ (items : List Value) (acc : List Document) (frames : List Frame)
    (rest : List Lexeme),
    run .more (.array acc :: frames) ((itemLexemes items).flatMap (.comma :: ·) ++ rest)
      = run .more (.array ((writtenItems items).reverse ++ acc) :: frames) rest
  | [], _, _, _ => rfl
  | v :: vs, acc, frames, rest => by
      have hcomma : ∀ rest, run .more (.array acc :: frames) (.comma :: rest)
          = run .value (.array acc :: frames) rest := fun _ => rfl
      rw [itemLexemes, List.flatMap_cons, writtenItems, List.reverse_cons]
      simp only [List.append_assoc, List.cons_append, List.nil_append]
      rw [hcomma, run_lexemes v .item]
      exact run_items vs (written v :: acc) frames rest

/-- Fields behind others are put into the innermost object, the last one in
front. -/
theorem run_fields : ∀ (fields : List (String × Value)) (acc : List (FieldKey × Document))
    (frames : List Frame) (rest : List Lexeme),
    run .more (.object acc :: frames) ((fieldLexemes fields).flatMap (.comma :: ·) ++ rest)
      = run .more (.object ((writtenFields fields).reverse ++ acc) :: frames) rest
  | [], _, _, _ => rfl
  | (key, v) :: fields, acc, frames, rest => by
      have hkey : ∀ rest, run .more (.object acc :: frames)
            (.comma :: .string (some key) :: .colon :: rest)
          = run .value (.field acc (some key) :: frames) rest := fun _ => rfl
      rw [fieldLexemes, List.flatMap_cons, writtenFields, List.reverse_cons]
      simp only [List.append_assoc, List.cons_append, List.nil_append]
      rw [hkey, run_lexemes v .field]
      exact run_fields fields ((some key, written v) :: acc) frames rest

end

end Running

/-- The text of a value holds the tree that is written for it, and nothing
else. -/
theorem readOnly?_text (v : Value) : readOnly? v.text = some (written v) := by
  have hprints := prints_chars v [] Literal.ends_nil
  rw [List.append_nil] at hprints
  have hrun := run_lexemes v .text []
  rw [List.append_nil] at hrun
  rw [readOnly?, Value.text, String.toList_ofList, hprints.lex, hrun]
  rfl

-- ================================================================== depth

mutual

/-- What is read is nested as deep as what was written. -/
theorem depth_written : ∀ v : Value, (written v).depth = (ofValue v).depth
  | .null | .bool _ | .number _ | .string _ => rfl
  | .array items => congrArg (· + 1) (depthOfItems_written items)
  | .object fields => congrArg (· + 1) (depthOfFields_written fields)

theorem depthOfItems_written (items : List Value) :
    depthOfItems (writtenItems items) = depthOfItems (ofItems items) := by
  cases items with
  | nil => rfl
  | cons v vs => exact congrArg₂ max (depth_written v) (depthOfItems_written vs)

theorem depthOfFields_written : ∀ fields : List (String × Value),
    depthOfFields (writtenFields fields) = depthOfFields (ofFields fields)
  | [] => rfl
  | (_, v) :: fs => congrArg₂ max (depth_written v) (depthOfFields_written fs)

end

end Document

end TableApi.Json
