/-
Integers in free text, as a comparison reads them.

A text that reads as an integer also reads as a double, and the double is
that of the integer but for the sign of a zero. So an integer and its
text compare as equal, with whatever sign and however many leading zeros
the text is written.
-/
import TableApi.Numeric.Reading
import TableApi.Proofs.Numeric.Decimal
import TableApi.Proofs.Numeric.Integer

namespace TableApi.Double

open Json (Literal)

/-- The digits of a number are taken to the end of the text, and their
value is the number. -/
theorem takeDigits_of_appendDigits? {cs : List Char} :
    ∀ {n m : Nat}, Decimal.appendDigits? n cs = some m →
      ∃ ds, Literal.takeDigits cs = (ds, []) ∧ ds.length = cs.length
        ∧ ds.foldl (fun n d => n * 10 + d) n = m := by
  induction cs with
  | nil =>
      intro n m h
      obtain rfl : n = m := Option.some.inj h
      exact ⟨[], rfl, rfl, rfl⟩
  | cons c cs ih =>
      intro n m h
      rw [Decimal.appendDigits?] at h
      cases hc : Decimal.digit? c with
      | none => rw [hc] at h; cases h
      | some d =>
          rw [hc] at h
          obtain ⟨ds, htake, hlength, hvalue⟩ := ih h
          refine ⟨d :: ds, ?_, by simp [hlength], hvalue⟩
          rw [Literal.takeDigits, hc, htake]

/-- Digits alone are a decimal without fraction and exponent. -/
theorem readDecimal?_of_nat? (negative : Bool) {cs : List Char} {n : Nat}
    (h : Decimal.nat? cs = some n) :
    readDecimal? negative cs = some (if n = 0 then ⟨negative, 0⟩ else .ofRatio negative n 1) := by
  cases cs with
  | nil => cases h
  | cons c cs =>
      obtain ⟨ds, htake, hlength, hvalue⟩ := takeDigits_of_appendDigits? h
      have hwhole : ds.isEmpty = false := by
        cases ds with
        | nil => cases hlength
        | cons d ds => rfl
      unfold readDecimal?
      simp only [htake, hwhole, Bool.false_and, Bool.false_eq_true, if_false,
        Literal.takeExponent, List.append_nil, Option.getD_none, List.length_nil]
      have hval : Literal.value ds = n := hvalue
      rw [hval, ofScientific]
      by_cases hn : n = 0
      · rw [if_pos hn, if_pos hn]
      · rw [if_neg hn, if_neg (by decide), if_neg (by omega), if_neg hn]
        simp [Decimal.power]

theorem toLower_of_isDigit {c : Char} (h : c.isDigit = true) : c.toLower = c := by
  have hle : c.val ≤ 57 := by
    simp only [Char.isDigit, Bool.and_eq_true, decide_eq_true_eq] at h
    exact h.2
  unfold Char.toLower
  split
  · next hupper =>
    have h65 : (65 : UInt32) ≤ c.val := hupper.1
    exact absurd (UInt32.le_trans h65 hle) (by decide)
  · rfl

theorem isDigit_head {c : Char} {cs : List Char} {n : Nat}
    (h : Decimal.nat? (c :: cs) = some n) : c.isDigit = true :=
  (Decimal.nat?_eq_some_iff.1 h).2.1 c List.mem_cons_self

/-- Digits are none of the words that stand for a number. -/
theorem asciiLower_ne_of_nat? {cs : List Char} {n : Nat} (h : Decimal.nat? cs = some n)
    {c : Char} {ws : List Char} (hc : c.isDigit = false) :
    Text.asciiLower cs ≠ c :: ws := by
  intro heq
  cases cs with
  | nil => cases heq
  | cons d ds =>
      have hd := isDigit_head h
      have hfirst : d.toLower = c := (List.cons.inj heq).1
      rw [toLower_of_isDigit hd] at hfirst
      rw [hfirst, hc] at hd
      cases hd

/-- Digits behind a sign are the decimal that they are. -/
theorem read?_unsigned {cs : List Char} {n : Nat} (h : Decimal.nat? cs = some n)
    (negative : Bool) :
    (let word := String.ofList (Text.asciiLower cs)
    if word = "inf" ∨ word = "infinity" then some ⟨negative, infinity⟩
    else if word = "nan" then some ⟨negative, nanMagnitude⟩
    else readDecimal? negative cs)
      = some (if n = 0 then ⟨negative, 0⟩ else .ofRatio negative n 1) := by
  have hword : ∀ {w : String} {c : Char} {ws : List Char}, w.toList = c :: ws →
      c.isDigit = false → String.ofList (Text.asciiLower cs) ≠ w := by
    intro w c ws hw hc heq
    have hchars : Text.asciiLower cs = c :: ws := by
      rw [← hw, ← heq, String.toList_ofList]
    exact asciiLower_ne_of_nat? h hc hchars
  have hinf := hword (w := "inf") rfl rfl
  have hinfinity := hword (w := "infinity") rfl rfl
  have hnan := hword (w := "nan") rfl rfl
  simp only [hinf, hinfinity, hnan, or_self, if_false]
  exact readDecimal?_of_nat? negative h

/-- The double of digits behind a sign is in the place of the integer. -/
theorem compare?_signed (negative : Bool) (n : Nat) :
    let x : Double := if n = 0 then ⟨negative, 0⟩ else .ofRatio negative n 1
    let i : Int := if negative then -n else n
    x.compare? (ofInt i) = some .eq ∧ (ofInt i).compare? x = some .eq := by
  intro x i
  by_cases hn : n = 0
  · have hx : x = ⟨negative, 0⟩ := if_pos hn
    have hi : i = 0 := by
      have : (n : Int) = 0 := by omega
      cases negative <;> simp [i, this]
    rw [hx, hi]
    cases negative <;> decide +kernel
  · have hx : x = ofInt i := by
      have hsign : decide (i < 0) = negative := by
        cases negative with
        | false => simp [i]
        | true =>
            simp only [i, if_true, decide_eq_true_eq]
            omega
      have habs : i.natAbs = n := by
        cases negative <;> simp [i]
      show (if n = 0 then _ else _) = _
      rw [if_neg hn, ofInt, hsign, habs]
    rw [hx]
    exact ⟨compare?_ofInt_eq_iff.2 rfl, compare?_ofInt_eq_iff.2 rfl⟩

/-- An integer compares as equal with every text that reads as it. -/
theorem compare?_read?_of_int? {cs : List Char} {i : Int} (h : Decimal.int? cs = some i) :
    ∃ x, read? cs = some x ∧ x.compare? (ofInt i) = some .eq
      ∧ (ofInt i).compare? x = some .eq := by
  obtain ⟨ds, n, hn, ⟨rfl, rfl⟩ | ⟨rfl, rfl⟩ | ⟨rfl, rfl⟩⟩ := Decimal.int?_cases h
  · exact ⟨_, read?_unsigned hn false, compare?_signed false n⟩
  · exact ⟨_, read?_unsigned hn true, compare?_signed true n⟩
  · refine ⟨_, ?_, compare?_signed false n⟩
    -- No sign stands before digits.
    rw [← read?_unsigned hn false, read?]
    · rintro rest rfl
      exact absurd (isDigit_head hn) (by decide)
    · rintro rest rfl
      exact absurd (isDigit_head hn) (by decide)

end TableApi.Double
