/-
The tokens of SQL text.

A text is cut from left to right, and every token is as long as it can
be: a word runs up to the first character that is no word character, a
delimited name from its quote to the first quote that is not doubled, a
parameter over all the digits behind its dollar sign. White space stands
between tokens and is none.

# How a text is cut piece by piece

A token ends where the next character does not continue it, so what may
follow a piece of text without changing its tokens depends on how the
piece ends (`CutBefore`). Two cases are all that is needed: a *closed*
piece ends in white space or in a mark and may stand before any text; a
piece that ends in a word, a parameter or a name may stand before every
text that opens with neither a word character nor a quote (`CutInto`).
Pieces are put together by one lemma, `CutBefore.append`, which asks only
that the second piece may follow the first.
-/
import TableApi.Proofs.Numeric.Decimal
import TableApi.Sql.Fragment

namespace TableApi.Sql

-- ================================================================ tokens

inductive Token where
  /-- A keyword, the name of a type or a number. -/
  | word (text : String)
  /-- A delimited identifier, without its quotes. -/
  | name (text : String)
  | param (n : Nat)
  /-- An operator. -/
  | sign (text : String)
  /-- A parenthesis, a comma, or any other character by itself. -/
  | mark (c : Char)
deriving DecidableEq

/-- Letters, digits, the underscore and the dot of a qualified name.
Beyond ASCII every character counts as a letter. -/
def isWordChar (c : Char) : Bool :=
  c.isAlphanum || c == '_' || c == '.' || decide (128 ≤ c.toNat)

/-- The characters that operators are made of, the colon of a cast
included. -/
def isSignChar (c : Char) : Bool := "+-*/<>=~!@#%^&|?:".toList.contains c

/-- The token that is being cut. -/
inductive Pending where
  | none
  | word (text : List Char)
  | param (digits : List Char)
  | sign (text : List Char)
  | mark (c : Char)
  /-- Inside the quotes of a name. -/
  | inside (text : List Char)
  /-- Behind a quote, which ends the name unless another one follows. -/
  | behind (text : List Char)

namespace Pending

/-- The token that a character starts. -/
def start (c : Char) : Pending :=
  if c.isWhitespace then none
  else if c = '"' then inside []
  else if c = '$' then param []
  else if isWordChar c then word [c]
  else if isSignChar c then sign [c]
  else mark c

/-- The token with one more character, if the character continues it. -/
def extend? : Pending → Char → Option Pending
  | word text, c => if isWordChar c then some (word (text ++ [c])) else Option.none
  | param ds, c => if c.isDigit then some (param (ds ++ [c])) else Option.none
  | sign text, c => if isSignChar c then some (sign (text ++ [c])) else Option.none
  | inside text, c => some (if c = '"' then behind text else inside (text ++ [c]))
  | behind text, c => if c = '"' then some (inside (text ++ ['"'])) else Option.none
  | none, _ | mark _, _ => Option.none

/-- What is cut when the token ends. A name has to be closed, and a
parameter has to have a number. -/
def finish : Pending → Option (List Token)
  | none => some []
  | word text => some [.word (String.ofList text)]
  | param ds => (Decimal.nat? ds).map fun n => [.param n]
  | sign text => some [.sign (String.ofList text)]
  | mark c => some [.mark c]
  | inside _ => Option.none
  | behind text => some [.name (String.ofList text)]

end Pending

namespace Token

/-- Goes on cutting a text in the middle of a token. -/
def readFrom : Pending → List Char → Option (List Token)
  | pending, [] => pending.finish
  | pending, c :: cs =>
      match pending.extend? c with
      | some pending => readFrom pending cs
      | none => do
          let done ← pending.finish
          let rest ← readFrom (.start c) cs
          return done ++ rest

/-- The tokens that are cut before the end of a text, and the token that
is being cut there. -/
def cutFrom : Pending → List Char → Option (List Token × Pending)
  | pending, [] => some ([], pending)
  | pending, c :: cs =>
      match pending.extend? c with
      | some pending => cutFrom pending cs
      | none => do
          let done ← pending.finish
          let (rest, last) ← cutFrom (.start c) cs
          return (done ++ rest, last)

/-- The tokens of a text. -/
def read? (text : List Char) : Option (List Token) := readFrom .none text

@[simp] theorem read?_nil : read? [] = some [] := rfl

@[simp] theorem read?_cons (c : Char) (cs : List Char) :
    read? (c :: cs) = readFrom (.start c) cs := by
  simp [read?, readFrom, Pending.extend?, Pending.finish]

end Token

-- ============================================================ the seams

/-- The text has these tokens before every text with the property. -/
def CutBefore (may : List Char → Prop) (text : List Char) (ts : List Token) : Prop :=
  ∀ rest, may rest → Token.read? (text ++ rest) = (Token.read? rest).map (ts ++ ·)

/-- The text has these tokens before any text. -/
abbrev Closed (text : List Char) (ts : List Token) : Prop :=
  CutBefore (fun _ => True) text ts

/-- No word, parameter or name goes on with the character. -/
def isSeam (c : Char) : Bool := !isWordChar c && c != '"'

/-- The text opens a new token. -/
def Opens (text : List Char) : Prop := ∀ c ∈ text.head?, isSeam c = true

/-- The text has these tokens before any text that opens a new one. -/
abbrev CutInto (text : List Char) (ts : List Token) : Prop := CutBefore Opens text ts

theorem opens_nil : Opens [] := by intro c hc; cases hc

/-- What opens a new token goes on with no word. -/
theorem Opens.isWordChar {c : Char} {text : List Char} (h : Opens text)
    (hc : c ∈ text.head?) : isWordChar c = false := by
  have hseam := h c hc
  rw [isSeam, Bool.and_eq_true, Bool.not_eq_true'] at hseam
  exact hseam.1

/-- What opens a new token goes on with no name. -/
theorem Opens.ne_quote {c : Char} {text : List Char} (h : Opens text)
    (hc : c ∈ text.head?) : c ≠ '"' := by
  have hseam := h c hc
  rw [isSeam, Bool.and_eq_true, bne_iff_ne] at hseam
  exact hseam.2

variable {may may' : List Char → Prop} {a b : List Char} {s t : List Token}

/-- Two pieces make one if the second, whatever comes behind it, may
follow the first. -/
theorem CutBefore.append (ha : CutBefore may a s) (hb : CutBefore may' b t)
    (hseam : ∀ rest, may' rest → may (b ++ rest)) :
    CutBefore may' (a ++ b) (s ++ t) := by
  intro rest hrest
  rw [List.append_assoc, ha _ (hseam rest hrest), hb rest hrest, Option.map_map]
  congr 1
  funext u
  simp

/-- Behind a closed piece anything may come. -/
theorem CutBefore.after_closed (ha : Closed a s) (hb : CutBefore may' b t) :
    CutBefore may' (a ++ b) (s ++ t) :=
  ha.append hb fun _ _ => trivial

/-- Behind any piece another one may come that opens a new token. -/
theorem CutBefore.after_open (ha : CutInto a s) (hb : CutBefore may' b t)
    (hseam : b.head?.any isSeam = true) : CutBefore may' (a ++ b) (s ++ t) := by
  refine ha.append hb fun rest _ c hc => ?_
  cases b with
  | nil => cases hseam
  | cons d b =>
      obtain rfl : d = c := Option.some.inj hc
      exact hseam

/-- What is cut before any text is cut before one that opens a new token. -/
theorem Closed.cutInto (ha : Closed a s) : CutInto a s := fun rest _ => ha rest trivial

/-- A text that is cut into tokens has them when it stands alone. -/
theorem CutInto.read? (h : CutInto a s) : Token.read? a = some s := by
  have hnil := h [] opens_nil
  rw [List.append_nil] at hnil
  rw [hnil]
  simp

-- ======================================================== closed pieces

/-- A text goes on being cut where its beginning left off. -/
theorem readFrom_append {p q : Pending} (h : Token.cutFrom p a = some (s, q)) :
    Token.readFrom p (a ++ b) = (Token.readFrom q b).map (s ++ ·) := by
  induction a generalizing p s with
  | nil =>
      obtain ⟨rfl, rfl⟩ := Prod.mk.inj (Option.some.inj h)
      simp
  | cons c a ih =>
      simp only [List.cons_append, Token.readFrom, Token.cutFrom] at h ⊢
      cases hc : p.extend? c with
      | some p' =>
          rw [hc] at h
          exact ih h
      | none =>
          simp only [hc, Option.bind_eq_bind, Option.bind_eq_some_iff] at h ⊢
          obtain ⟨done, hdone, ⟨ts, last⟩, hts, heq⟩ := h
          obtain ⟨rfl, rfl⟩ := Prod.mk.inj (Option.some.inj heq)
          rw [hdone, Option.bind_some, ih hts]
          cases Token.readFrom last b <;> simp

/-- A piece is closed whose last token nothing continues. -/
theorem closed_of_cutFrom {q : Pending} (h : Token.cutFrom .none a = some (s, q))
    (hfinish : q.finish = some t) (hends : ∀ c, q.extend? c = none) :
    Closed a (s ++ t) := by
  intro rest _
  rw [Token.read?, readFrom_append h]
  cases rest with
  | nil => simp [Token.readFrom, hfinish]
  | cons c cs =>
      rw [Token.readFrom, hends c, hfinish, Token.read?_cons]
      cases Token.readFrom (.start c) cs <;> simp

/-- A piece that ends in a blank is closed. -/
theorem closed_blank (h : Token.cutFrom .none a = some (s, .none)) : Closed a s := by
  have hclosed := closed_of_cutFrom h rfl fun _ => rfl
  rw [List.append_nil] at hclosed
  exact hclosed

/-- A piece that ends in a mark is closed. -/
theorem closed_mark {c : Char} (h : Token.cutFrom .none a = some (s, .mark c)) :
    Closed a (s ++ [.mark c]) :=
  closed_of_cutFrom h rfl fun _ => rfl

-- ====================================================== words and names

/-- A token that the text does not continue is cut before it. -/
theorem readFrom_of_ends {p : Pending} {ts : List Token} {rest : List Char}
    (hfinish : p.finish = some ts) (hends : ∀ c ∈ rest.head?, p.extend? c = none) :
    Token.readFrom p rest = (Token.read? rest).map (ts ++ ·) := by
  cases rest with
  | nil => simp [Token.readFrom, hfinish]
  | cons c cs =>
      have hc : p.extend? c = none := hends c rfl
      rw [Token.read?_cons, Token.readFrom, hc, hfinish]
      cases Token.readFrom (.start c) cs <;> rfl

/-- A character of words starts a word. -/
theorem start_of_isWordChar {c : Char} (h : isWordChar c = true) :
    Pending.start c = .word [c] := by
  have hblank : c.isWhitespace = false := by
    cases hb : c.isWhitespace with
    | false => rfl
    | true =>
        simp only [Char.isWhitespace, Bool.or_eq_true, decide_eq_true_eq] at hb
        rcases hb with ((rfl | rfl) | rfl) | rfl <;> exact absurd h (by decide)
  have hquote : c ≠ '"' := by rintro rfl; exact absurd h (by decide)
  have hdollar : c ≠ '$' := by rintro rfl; exact absurd h (by decide)
  simp [Pending.start, hblank, hquote, hdollar, h]

/-- Characters of words go on with a word. -/
theorem readFrom_word {w : List Char} (rest : List Char) :
    ∀ {text : List Char}, (∀ c ∈ w, isWordChar c = true) →
      Token.readFrom (.word text) (w ++ rest) = Token.readFrom (.word (text ++ w)) rest := by
  induction w with
  | nil => intro text _; simp
  | cons c w ih =>
      intro text h
      have hc := h c List.mem_cons_self
      simp only [List.cons_append, Token.readFrom, Pending.extend?, hc, if_true]
      rw [ih fun d hd => h d (List.mem_cons_of_mem _ hd)]
      simp

/-- One or more word characters are a word. -/
theorem cutInto_word {w : String} (hne : w ≠ "")
    (hw : ∀ c ∈ w.toList, isWordChar c = true) : CutInto w.toList [.word w] := by
  intro rest hrest
  cases hcs : w.toList with
  | nil => exact absurd (String.toList_eq_nil_iff.1 hcs) hne
  | cons c cs =>
      have hc : isWordChar c = true := hw c (by simp [hcs])
      have hws : ∀ d ∈ cs, isWordChar d = true := fun d hd => hw d (by simp [hcs, hd])
      have hstart : Token.read? (c :: cs ++ rest)
          = Token.readFrom (.word ([c] ++ cs)) rest := by
        rw [← readFrom_word rest hws, ← start_of_isWordChar hc, List.cons_append,
          Token.read?_cons]
      rw [hstart]
      refine readFrom_of_ends ?_ fun d hd => ?_
      · simp [Pending.finish, ← hcs]
      · simp [Pending.extend?, hrest.isWordChar hd]

/-- Inside quotes all characters go on with a name, a quote written twice.
-/
theorem readFrom_inside {s : List Char} (rest : List Char) :
    ∀ text : List Char,
      Token.readFrom (.inside text)
          (s.flatMap (fun c => if c = '"' then ['"', '"'] else [c]) ++ '"' :: rest)
        = Token.readFrom (.behind (text ++ s)) rest := by
  induction s with
  | nil => intro text; simp [Token.readFrom, Pending.extend?]
  | cons c s ih =>
      intro text
      by_cases hc : c = '"'
      · subst hc
        simp only [List.flatMap_cons, if_true, List.cons_append, List.nil_append,
          Token.readFrom, Pending.extend?]
        rw [ih]
        simp
      · simp only [List.flatMap_cons, if_neg hc, List.cons_append, List.nil_append,
          Token.readFrom, Pending.extend?]
        rw [ih]
        simp

/-- A delimited name is the name, whatever characters it has. -/
theorem cutInto_name (s : String) : CutInto (delimited s) [.name s] := by
  intro rest hrest
  have hstart : Token.read? (delimited s ++ rest)
      = Token.readFrom (.behind s.toList) rest := by
    have hin := readFrom_inside (s := s.toList) rest []
    rw [List.nil_append] at hin
    rw [← hin]
    simp only [delimited, List.cons_append, List.append_assoc, List.nil_append,
      Token.read?_cons]
    rfl
  rw [hstart]
  refine readFrom_of_ends ?_ fun d hd => ?_
  · simp [Pending.finish]
  · simp [Pending.extend?, hrest.ne_quote hd]

/-- Digits go on with a parameter. -/
theorem readFrom_param {w : List Char} (rest : List Char) :
    ∀ ds : List Char, (∀ c ∈ w, c.isDigit = true) →
      Token.readFrom (.param ds) (w ++ rest) = Token.readFrom (.param (ds ++ w)) rest := by
  induction w with
  | nil => intro ds _; simp
  | cons c w ih =>
      intro ds h
      have hc := h c List.mem_cons_self
      simp only [List.cons_append, Token.readFrom, Pending.extend?, hc, if_true]
      rw [ih _ fun d hd => h d (List.mem_cons_of_mem _ hd)]
      simp

/-- Digits are characters of words. -/
theorem isWordChar_of_isDigit {c : Char} (h : c.isDigit = true) : isWordChar c = true := by
  simp [isWordChar, Char.isAlphanum, h]

/-- A parameter is its number. -/
theorem cutInto_param (n : Nat) : CutInto ('$' :: Decimal.digits n) [.param n] := by
  intro rest hrest
  have hstart : Token.read? ('$' :: Decimal.digits n ++ rest)
      = Token.readFrom (.param (Decimal.digits n)) rest := by
    have hin := readFrom_param (w := Decimal.digits n) rest []
      fun c => Decimal.isDigit_of_mem_digits
    rw [List.nil_append] at hin
    rw [← hin, List.cons_append, Token.read?_cons]
    rfl
  rw [hstart]
  refine readFrom_of_ends ?_ fun d hd => ?_
  · simp [Pending.finish]
  · have hd : d.isDigit = false := by
      cases h : d.isDigit with
      | false => rfl
      | true => rw [← hrest.isWordChar hd, isWordChar_of_isDigit h]
    simp [Pending.extend?, hd]

-- ================================================================= casts

/-- No character of words is one of operators. -/
theorem isSignChar_of_isWordChar {c : Char} (h : isWordChar c = true) :
    isSignChar c = false := by
  cases hc : isSignChar c with
  | false => rfl
  | true =>
      have hmem : c ∈ "+-*/<>=~!@#%^&|?:".toList := by simpa [isSignChar] using hc
      have hall : "+-*/<>=~!@#%^&|?:".toList.all (fun d => !isWordChar d) = true := by
        decide
      have hother := List.all_eq_true.1 hall c hmem
      rw [h] at hother
      cases hother

/-- A cast is its sign and the name of the type, which no operator can
swallow. -/
theorem cutInto_cast {w : String} (hne : w ≠ "")
    (hw : ∀ c ∈ w.toList, isWordChar c = true) :
    CutInto ("::".toList ++ w.toList) [.sign "::", .word w] := by
  have hsign : CutBefore (fun rest => ∀ c ∈ rest.head?, isSignChar c = false)
      "::".toList [.sign "::"] := by
    intro rest hrest
    have hstart : Token.read? ("::".toList ++ rest)
        = Token.readFrom (.sign "::".toList) rest := by
      rw [Token.read?, readFrom_append (s := []) (q := .sign "::".toList) rfl]
      simp
    rw [hstart]
    refine readFrom_of_ends ?_ fun c hc => ?_
    · simp [Pending.finish]
    · simp [Pending.extend?, hrest c hc]
  refine hsign.append (cutInto_word hne hw) fun rest _ c hc => ?_
  cases hcs : w.toList with
  | nil => exact absurd (String.toList_eq_nil_iff.1 hcs) hne
  | cons d ds =>
      obtain rfl : d = c := by simpa [hcs] using hc
      exact isSignChar_of_isWordChar (hw d (by simp [hcs]))

end TableApi.Sql
