/-
White space around text.

A text is what trimming leaves of it between white space (`pads_trim`), and
white space put around it is all that trimming does not see
(`Pads.trim_eq`). Where a text has any other character, the two ends are
trimmed independently on the two sides of that character (`trim_around`);
the lemmas about more than one part of a text go back to this.
-/
import Mathlib.Data.List.TakeWhile
import TableApi.Text.Ascii
import TableApi.Text.Blank

namespace TableApi.Text

variable {c : Char} {cs padded before after : List Char}

/-- The second text is the first with white space, or none, before and
behind it. -/
def Pads (cs padded : List Char) : Prop :=
  ∃ before after, isAllBlank before = true ∧ isAllBlank after = true
    ∧ padded = before ++ cs ++ after

theorem isAllBlank_iff : isAllBlank cs = true ↔ ∀ c ∈ cs, isBlank c = true := List.all_eq_true

/-- Digits are no white space. -/
theorem isBlank_of_isDigit (h : c.isDigit = true) : isBlank c = false := by
  have hrange : '0'.toNat ≤ c.toNat ∧ c.toNat ≤ '9'.toNat := by
    simp only [Char.isDigit, Bool.and_eq_true, decide_eq_true_eq] at h
    exact h
  have hvalues : '0'.toNat = 48 ∧ '9'.toNat = 57 := ⟨rfl, rfl⟩
  unfold isBlank
  simp only [decide_eq_false_iff_not]
  omega

-- =============================================================== trimming

/-- There is nothing to trim between characters that are not white space. -/
theorem trim_eq_self (hfirst : ∀ c ∈ cs.head?, isBlank c = false)
    (hlast : ∀ c ∈ cs.getLast?, isBlank c = false) : trim cs = cs := by
  have hkept : ∀ {cs : List Char}, (∀ c ∈ cs.head?, isBlank c = false) →
      cs.dropWhile isBlank = cs := by
    intro cs h
    cases cs with
    | nil => rfl
    | cons c cs => rw [List.dropWhile_cons, h c rfl]; rfl
  rw [trim, hkept hfirst, hkept (by rwa [List.head?_reverse]), List.reverse_reverse]

/-- Of a blank text nothing is left. -/
theorem trim_of_isAllBlank (h : isAllBlank cs = true) : trim cs = [] := by
  rw [trim, List.dropWhile_eq_nil_iff.2 (isAllBlank_iff.1 h)]
  rfl

/-- A text that is not blank has a character that is no white space. -/
theorem exists_visible (h : isAllBlank cs = false) :
    ∃ front c back, cs = front ++ c :: back ∧ isBlank c = false := by
  obtain ⟨c, hmem, hc⟩ := List.all_eq_false.1 h
  obtain ⟨front, back, rfl⟩ := List.append_of_mem hmem
  exact ⟨front, c, back, rfl, Bool.not_eq_true _ ▸ hc⟩

/-- White space is dropped in front of a character that is none, and no
further. -/
theorem dropWhile_around (hc : isBlank c = false) (front back : List Char) :
    (front ++ c :: back).dropWhile isBlank = front.dropWhile isBlank ++ c :: back := by
  have hkept : (c :: back).dropWhile isBlank = c :: back := by
    rw [List.dropWhile_cons, hc, if_neg Bool.false_ne_true]
  rw [List.dropWhile_append]
  split
  · next hempty => rw [List.isEmpty_iff.1 hempty, hkept, List.nil_append]
  · rfl

/-- Each end is trimmed on its own side of a character that stays. -/
theorem trim_around (hc : isBlank c = false) (front back : List Char) :
    trim (front ++ c :: back)
      = front.dropWhile isBlank ++ c :: (back.reverse.dropWhile isBlank).reverse := by
  have hreverse : (front.dropWhile isBlank ++ c :: back).reverse
      = back.reverse ++ c :: (front.dropWhile isBlank).reverse := by
    simp
  rw [trim, dropWhile_around hc, hreverse, dropWhile_around hc]
  simp

/-- What trimming leaves begins with the first character that is no white
space. -/
theorem head?_trim (cs : List Char) : (trim cs).head? = (cs.dropWhile isBlank).head? := by
  cases hblank : isAllBlank cs with
  | true =>
      rw [trim_of_isAllBlank hblank, List.dropWhile_eq_nil_iff.2 (isAllBlank_iff.1 hblank)]
  | false =>
      obtain ⟨front, c, back, rfl, hc⟩ := exists_visible hblank
      rw [trim_around hc, dropWhile_around hc, List.head?_append, List.head?_append]
      rfl

-- ================================================================ padding

/-- White space around a text makes it no less blank. -/
theorem Pads.isAllBlank_eq (h : Pads cs padded) : isAllBlank padded = isAllBlank cs := by
  obtain ⟨before, after, hbefore, hafter, rfl⟩ := h
  unfold isAllBlank at hbefore hafter ⊢
  rw [List.all_append, List.all_append, hbefore, hafter, Bool.true_and, Bool.and_true]

/-- Trimming does not see what white space there is around a text. -/
theorem Pads.trim_eq (h : Pads cs padded) : trim padded = trim cs := by
  cases hblank : isAllBlank cs with
  | true => rw [trim_of_isAllBlank hblank, trim_of_isAllBlank (h.isAllBlank_eq.trans hblank)]
  | false =>
      obtain ⟨before, after, hbefore, hafter, rfl⟩ := h
      obtain ⟨front, c, back, rfl, hc⟩ := exists_visible hblank
      have hafter' : ∀ c ∈ after.reverse, isBlank c = true := fun c hmem =>
        isAllBlank_iff.1 hafter c (List.mem_reverse.1 hmem)
      have hpadded : before ++ (front ++ c :: back) ++ after
          = (before ++ front) ++ c :: (back ++ after) := by
        simp
      rw [hpadded, trim_around hc, trim_around hc, List.reverse_append,
        List.dropWhile_append_of_pos (isAllBlank_iff.1 hbefore),
        List.dropWhile_append_of_pos hafter']

/-- Only white space is put around a text. -/
theorem Pads.not_mem (h : Pads cs padded) (hc : isBlank c = false) (hmem : c ∉ cs) :
    c ∉ padded := by
  have hblank : ∀ {blanks : List Char}, isAllBlank blanks = true → c ∉ blanks := by
    intro blanks hblanks hin
    rw [isAllBlank_iff.1 hblanks c hin] at hc
    cases hc
  obtain ⟨before, after, hbefore, hafter, rfl⟩ := h
  intro hin
  rcases List.mem_append.1 hin with hin | hin
  · rcases List.mem_append.1 hin with hin | hin
    · exact hblank hbefore hin
    · exact hmem hin
  · exact hblank hafter hin

/-- White space around white space is white space around the text. -/
theorem Pads.trans {inner : List Char} (h : Pads inner cs) (hcs : Pads cs padded) :
    Pads inner padded := by
  obtain ⟨before, after, hbefore, hafter, rfl⟩ := h
  obtain ⟨front, back, hfront, hback, rfl⟩ := hcs
  refine ⟨front ++ before, after ++ back, ?_, ?_, by simp⟩
  · rw [isAllBlank, List.all_append]
    exact Bool.and_eq_true_iff.2 ⟨hfront, hbefore⟩
  · rw [isAllBlank, List.all_append]
    exact Bool.and_eq_true_iff.2 ⟨hafter, hback⟩

/-- What is dropped in front of a text was white space around the rest. -/
theorem pads_dropWhile (cs : List Char) : Pads (cs.dropWhile isBlank) cs := by
  refine ⟨cs.takeWhile isBlank, [], List.all_takeWhile, rfl, ?_⟩
  rw [List.append_nil, List.takeWhile_append_dropWhile]

/-- What is dropped behind a text was white space around the rest. -/
theorem pads_dropWhile_reverse (cs : List Char) :
    Pads (cs.reverse.dropWhile isBlank).reverse cs := by
  refine ⟨[], (cs.reverse.takeWhile isBlank).reverse, rfl, ?_, ?_⟩
  · rw [isAllBlank, List.all_reverse]
    exact List.all_takeWhile
  · rw [List.nil_append, ← List.reverse_append, List.takeWhile_append_dropWhile,
      List.reverse_reverse]

/-- A text is what trimming leaves of it, between white space. -/
theorem pads_trim (cs : List Char) : Pads (trim cs) cs :=
  (pads_dropWhile_reverse (cs.dropWhile isBlank)).trans (pads_dropWhile cs)

/-- Trimming puts in no characters. -/
theorem mem_of_mem_trim (h : c ∈ trim cs) : c ∈ cs := by
  obtain ⟨before, after, -, -, heq⟩ := pads_trim cs
  rw [heq]
  exact List.mem_append_left _ (List.mem_append_right _ h)

/-- A trimmed text is trimmed already. -/
@[simp] theorem trim_trim (cs : List Char) : trim (trim cs) = trim cs :=
  (pads_trim cs).trim_eq.symm

/-- White space before or behind a text makes it longer. -/
theorem trim_eq_self_of_length (h : (trim cs).length = cs.length) : trim cs = cs := by
  obtain ⟨before, after, -, -, heq⟩ := pads_trim cs
  have hlength := congrArg List.length heq
  rw [List.length_append, List.length_append] at hlength
  have hbefore : before = [] := List.eq_nil_of_length_eq_zero (by omega)
  have hafter : after = [] := List.eq_nil_of_length_eq_zero (by omega)
  rw [hbefore, hafter, List.nil_append, List.append_nil] at heq
  exact heq.symm

-- ============================================================= lower case

/-- White space has no letters. -/
theorem isBlank_toLower (c : Char) : isBlank c.toLower = isBlank c := by
  unfold Char.toLower
  split
  · next h =>
    have hlow : 65 ≤ c.toNat := UInt32.le_iff_toNat_le.1 h.1
    have hhigh : c.toNat ≤ 90 := UInt32.le_iff_toNat_le.1 h.2
    have hmoved : (c.val + ('a'.val - 'A'.val)).toNat = c.toNat + 32 := by
      have hbound : c.val.toNat + 32 < 2 ^ 32 := by
        have hval : c.val.toNat = c.toNat := rfl
        omega
      exact (UInt32.toNat_add c.val 32).trans (Nat.mod_eq_of_lt hbound)
    unfold isBlank
    simp only [Char.toNat, hmoved] at hlow hhigh ⊢
    rw [decide_eq_decide]
    omega
  · rfl

/-- Trimming and lower case do not meet. -/
theorem trim_asciiLower (cs : List Char) : trim (asciiLower cs) = asciiLower (trim cs) := by
  have hblank : isBlank ∘ Char.toLower = isBlank := funext isBlank_toLower
  rw [trim, trim, asciiLower, asciiLower, List.dropWhile_map, hblank, ← List.map_reverse,
    List.dropWhile_map, hblank, ← List.map_reverse]

end TableApi.Text
