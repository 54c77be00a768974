/-
Decimal text and the numbers it denotes.

`appendDigits?` is settled once: it succeeds on ASCII digits and on
nothing else, and then yields what the standard library's fold over
digit characters does. Everything else reads that fact at a particular
text; that a number is read back from its own digits is the case of the
digits that `digits` writes. A bounded number is such digits behind a plus
sign or none (`Spells`); an integer is digits behind an optional sign, so no
text with a point or an exponent is one.
-/
import TableApi.Json.Printer
import TableApi.Numeric.Decimal

namespace TableApi.Decimal

-- ================================================================ digits

/-- A digit is read as its value. -/
theorem digit?_of_isDigit {c : Char} (h : c.isDigit = true) :
    digit? c = some (c.toNat - '0'.toNat) := by
  have hc : '0' ≤ c ∧ c ≤ '9' := by
    simp only [Char.isDigit, Bool.and_eq_true, decide_eq_true_eq] at h
    exact h
  rw [digit?, if_pos hc]

/-- Nothing but a digit is read as one. -/
theorem isDigit_of_digit? {c : Char} {d : Nat} (h : digit? c = some d) :
    c.isDigit = true := by
  unfold digit? at h
  split at h
  case isTrue hc =>
    simp only [Char.isDigit, Bool.and_eq_true, decide_eq_true_eq]
    exact hc
  case isFalse => cases h

/-- Digits are read on from any number, the earlier digits counting for
more. -/
theorem appendDigits?_of_digits {cs : List Char} :
    ∀ {n : Nat}, (∀ c ∈ cs, c.isDigit = true) →
      appendDigits? n cs = some (Nat.ofDigitChars 10 cs n) := by
  induction cs with
  | nil => intro n _; simp [appendDigits?]
  | cons c cs ih =>
      intro n h
      have hc := digit?_of_isDigit (h c List.mem_cons_self)
      simp only [appendDigits?, hc]
      rw [ih fun d hd => h d (List.mem_cons_of_mem _ hd), Nat.ofDigitChars_cons,
        Nat.mul_comm]

/-- Nothing but digits is read. -/
theorem digits_of_appendDigits? {cs : List Char} :
    ∀ {n m : Nat}, appendDigits? n cs = some m → ∀ c ∈ cs, c.isDigit = true := by
  induction cs with
  | nil => intro n m _ c hc; cases hc
  | cons c cs ih =>
      intro n m h d hd
      simp only [appendDigits?] at h
      cases hc : digit? c with
      | none => rw [hc] at h; cases h
      | some k =>
          rw [hc] at h
          rcases List.mem_cons.1 hd with rfl | hd
          · exact isDigit_of_digit? hc
          · exact ih h d hd

/-- A number is one or more digits and nothing else. -/
theorem nat?_eq_some_iff {cs : List Char} {n : Nat} :
    nat? cs = some n
      ↔ cs ≠ [] ∧ (∀ c ∈ cs, c.isDigit = true) ∧ Nat.ofDigitChars 10 cs 0 = n := by
  cases cs with
  | nil => simp [nat?]
  | cons c cs =>
      simp only [nat?, ne_eq, reduceCtorEq, not_false_eq_true, true_and]
      constructor
      · intro h
        have hd := digits_of_appendDigits? h
        rw [appendDigits?_of_digits hd] at h
        exact ⟨hd, Option.some.inj h⟩
      · rintro ⟨hd, rfl⟩
        exact appendDigits?_of_digits hd

/-- The decimal text of a number has digits only. -/
theorem isDigit_of_mem_digits {n : Nat} {c : Char} (h : c ∈ digits n) :
    c.isDigit = true :=
  Nat.isDigit_of_mem_toDigits (by decide) (by decide) h

@[simp] theorem digits_ne_nil (n : Nat) : digits n ≠ [] := Nat.toDigits_ne_nil

/-- A number is read back from its digits. -/
@[simp] theorem nat?_digits (n : Nat) : nat? (digits n) = some n :=
  nat?_eq_some_iff.2
    ⟨digits_ne_nil n, fun _ => isDigit_of_mem_digits, Nat.ofDigitChars_ten_toDigits⟩

-- ======================================================= bounded numbers

/-- A text spells a number: decimal digits, behind a plus sign or not. -/
def Spells (text : List Char) (n : Nat) : Prop :=
  ∃ ds, (text = ds ∨ text = '+' :: ds) ∧ ds ≠ [] ∧ (∀ d ∈ ds, d.isDigit = true)
    ∧ Nat.ofDigitChars 10 ds 0 = n

/-- A text without a sign in front is read from its first character. -/
theorem boundedNat?_unsigned {bound : Nat} {text : List Char} (h : ∀ rest, text ≠ '+' :: rest) :
    boundedNat? bound text = (nat? text).filter (· ≤ bound) := by
  unfold boundedNat?
  split
  · next rest => exact absurd rfl (h rest)
  · rfl

/-- Read are the numbers up to the bound, with a plus sign or without. -/
theorem boundedNat?_eq_some_iff {bound n : Nat} {text : List Char} :
    boundedNat? bound text = some n ↔ Spells text n ∧ n ≤ bound := by
  by_cases hsign : ∃ rest, text = '+' :: rest
  · obtain ⟨rest, rfl⟩ := hsign
    have hread : boundedNat? bound ('+' :: rest) = (nat? rest).filter (· ≤ bound) := rfl
    rw [hread, Option.filter_eq_some_iff, nat?_eq_some_iff, decide_eq_true_eq]
    constructor
    · rintro ⟨⟨hne, hdigits, hvalue⟩, hbound⟩
      exact ⟨⟨rest, .inr rfl, hne, hdigits, hvalue⟩, hbound⟩
    · rintro ⟨⟨ds, htext, hne, hdigits, hvalue⟩, hbound⟩
      rcases htext with rfl | htext
      · exact absurd (hdigits '+' List.mem_cons_self) (by decide)
      · obtain rfl := (List.cons.inj htext).2
        exact ⟨⟨hne, hdigits, hvalue⟩, hbound⟩
  · rw [boundedNat?_unsigned fun rest hrest => hsign ⟨rest, hrest⟩,
      Option.filter_eq_some_iff, nat?_eq_some_iff, decide_eq_true_eq]
    constructor
    · rintro ⟨⟨hne, hdigits, hvalue⟩, hbound⟩
      exact ⟨⟨text, .inl rfl, hne, hdigits, hvalue⟩, hbound⟩
    · rintro ⟨⟨ds, htext, hne, hdigits, hvalue⟩, hbound⟩
      rcases htext with rfl | htext
      · exact ⟨⟨hne, hdigits, hvalue⟩, hbound⟩
      · exact absurd ⟨ds, htext⟩ hsign

/-- A number is read back from its digits if the bound allows it. -/
theorem boundedNat?_digits (bound n : Nat) :
    boundedNat? bound (digits n) = if n ≤ bound then some n else none := by
  have hsign : ∀ rest, digits n ≠ '+' :: rest := by
    intro rest heq
    have hdigit : '+'.isDigit = true := isDigit_of_mem_digits (heq ▸ List.mem_cons_self)
    cases hdigit
  rw [boundedNat?_unsigned hsign, nat?_digits, Option.filter_some]
  simp only [decide_eq_true_eq]

-- ============================================================== integers

/-- Digits with a sign or without one read as an integer. -/
theorem int?_cases {cs : List Char} {i : Int} (h : int? cs = some i) :
    ∃ ds n, nat? ds = some n
      ∧ (cs = '+' :: ds ∧ i = n ∨ cs = '-' :: ds ∧ i = -n ∨ cs = ds ∧ i = n) := by
  unfold int? at h
  split at h
  · obtain ⟨n, hn, rfl⟩ := Option.map_eq_some_iff.1 h
    exact ⟨_, n, hn, .inl ⟨rfl, rfl⟩⟩
  · next ds =>
    cases hn : nat? ds with
    | none =>
        rw [hn] at h
        cases h
    | some n =>
        rw [hn] at h
        exact ⟨ds, n, hn, .inr (.inl ⟨rfl, (Option.some.inj h).symm⟩)⟩
  · obtain ⟨n, hn, rfl⟩ := Option.map_eq_some_iff.1 h
    exact ⟨_, n, hn, .inr (.inr ⟨rfl, rfl⟩)⟩

/-- The characters that an integer may be written with. -/
def isIntegerChar (c : Char) : Bool := c == '+' || c == '-' || c.isDigit

/-- Digits may stand in an integer. -/
theorem isIntegerChar_of_isDigit {c : Char} (h : c.isDigit = true) :
    isIntegerChar c = true := by
  simp [isIntegerChar, h]

/-- What reads as an integer has no other characters. -/
theorem isIntegerChar_of_int? {cs : List Char} {i : Int} (h : int? cs = some i) :
    ∀ c ∈ cs, isIntegerChar c = true := by
  obtain ⟨ds, n, hn, hcs⟩ := int?_cases h
  have hdigits : ∀ c ∈ ds, isIntegerChar c = true := fun c hc =>
    isIntegerChar_of_isDigit ((nat?_eq_some_iff.1 hn).2.1 c hc)
  rcases hcs with ⟨rfl, _⟩ | ⟨rfl, _⟩ | ⟨rfl, _⟩
  · exact List.forall_mem_cons.2 ⟨rfl, hdigits⟩
  · exact List.forall_mem_cons.2 ⟨rfl, hdigits⟩
  · exact hdigits

/-- A text with any other character is no integer. -/
theorem int?_eq_none_of_mem {cs : List Char} {c : Char} (hc : c ∈ cs)
    (h : isIntegerChar c = false) : int? cs = none := by
  cases hi : int? cs with
  | none => rfl
  | some i =>
      rw [isIntegerChar_of_int? hi c hc] at h
      cases h

/-- Digits alone are read without a sign. -/
theorem int?_of_nat? {cs : List Char} {n : Nat} (h : nat? cs = some n) :
    int? cs = some (n : Int) := by
  obtain ⟨hne, hdigits, _⟩ := nat?_eq_some_iff.1 h
  cases cs with
  | nil => exact absurd rfl hne
  | cons c cs =>
      have hc := hdigits c List.mem_cons_self
      have hplus : c ≠ '+' := by rintro rfl; exact absurd hc (by decide)
      have hminus : c ≠ '-' := by rintro rfl; exact absurd hc (by decide)
      have hint : int? (c :: cs) = (nat? (c :: cs)).map Int.ofNat := by
        unfold int?
        split
        · next heq => exact absurd (List.cons.inj heq).1 hplus
        · next heq => exact absurd (List.cons.inj heq).1 hminus
        · rfl
      rw [hint, h]
      rfl

/-- An integer is read back from its text. -/
@[simp] theorem int?_intText (i : Int) : int? (Json.intText i) = some i := by
  unfold Json.intText
  split
  · next hneg =>
    have hread : int? ('-' :: digits i.natAbs) = some (-(i.natAbs : Int)) := by
      rw [int?, nat?_digits]
      rfl
    rw [hread, Option.some.injEq]
    omega
  · next hpos =>
    rw [int?_of_nat? (nat?_digits _), Option.some.injEq]
    omega

/-- The mark of a text that is no integer: a point or an exponent. -/
def Marked (cs : List Char) : Prop := '.' ∈ cs ∨ 'e' ∈ cs

theorem marked_positional (ds : List Char) (e : Int) : Marked (Json.positional ds e) := by
  refine .inl ?_
  unfold Json.positional
  split <;> simp

theorem marked_scientific (ds : List Char) (e : Int) : Marked (Json.scientific ds e) :=
  .inr (by simp [Json.scientific])

/-- A text with a mark in it is marked. -/
theorem Marked.append {cs : List Char} (h : Marked cs) (before : List Char) :
    Marked (before ++ cs) :=
  h.imp (List.mem_append_right _) (List.mem_append_right _)

/-- The text of a float is marked, whatever its form. -/
theorem marked_floatText (x : Double) : Marked (Json.floatText x) := by
  have hform : ∀ (p : Prop) [Decidable p] (ds : List Char) (e : Int),
      Marked (if p then Json.positional ds e else Json.scientific ds e) := by
    intro p _ ds e
    split
    · exact marked_positional ds e
    · exact marked_scientific ds e
  have hzero : Marked ['0', '.', '0'] := .inl (by decide)
  unfold Json.floatText
  by_cases hx : x.isZero = true
  · simp only [hx, if_true]
    exact hzero.append _
  · simp only [hx, Bool.false_eq_true, if_false]
    exact (hform _ _ _).append _

/-- The text of a float reads as no integer: it has a point or an
exponent. -/
theorem int?_floatText (x : Double) : int? (Json.floatText x) = none := by
  rcases marked_floatText x with hmem | hmem
  · exact int?_eq_none_of_mem hmem rfl
  · exact int?_eq_none_of_mem hmem rfl

end TableApi.Decimal

namespace TableApi.Json.Number

/-- An unsigned word of 64 bits holds the natural numbers up to its largest,
and no float is one of them. -/
theorem toNat64?_eq_some_iff {x : Number} {n : Nat} :
    x.toNat64? = some n ↔ x = .int n ∧ n ≤ nat64Max := by
  cases x with
  | float x => simp [toNat64?]
  | int i =>
      simp only [toNat64?, Option.ite_none_right_eq_some, Option.some.injEq, Number.int.injEq]
      omega

end TableApi.Json.Number
