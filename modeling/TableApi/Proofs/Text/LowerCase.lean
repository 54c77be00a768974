/-
The lower case of a piece in its place.

Lowering a text goes from character to character, but what becomes of a
capital sigma depends on the words around it. So the lower case of a piece
is not a piece of the lower case of the whole; it is what the piece
becomes between the texts that stand before and behind it
(`lowerWithin`), and a text is lowered piece by piece in this sense
(`lowerWithin_append`).

# What a place can change

Of the two neighbours only one truth value each is ever read: whether
they reach a cased letter. And it is read for capital sigmas only, so
one piece in two places comes out the same exactly if each of its capital
sigmas ends a word in both or in neither (`lowerWithin_eq_iff`). The
length never changes, which keeps the pieces of a lowered text apart.
-/
import TableApi.Text.LowerCase

namespace TableApi.Text

variable {before before' piece after after' cs : List Char} {c : Char}

-- ================================================================ places

theorem reachesCased_cons (c : Char) (cs : List Char) :
    reachesCased (c :: cs) = if isCaseIgnorable c then reachesCased cs else isCased c := by
  unfold reachesCased
  by_cases hc : isCaseIgnorable c = true
  · rw [List.dropWhile_cons_of_pos hc, if_pos hc]
  · rw [List.dropWhile_cons_of_neg hc, if_neg hc]

/-- What stands in front does not see more of a text than whether it
reaches a cased letter. -/
theorem reachesCased_append_congr (h : reachesCased after = reachesCased after')
    (cs : List Char) : reachesCased (cs ++ after) = reachesCased (cs ++ after') := by
  induction cs with
  | nil => exact h
  | cons c cs ih =>
      rw [List.cons_append, List.cons_append, reachesCased_cons, reachesCased_cons, ih]

/-- What a character becomes between two texts, the one before it given
last character first. -/
def image (before : List Char) (c : Char) (after : List Char) : List Char :=
  if c = 'Σ' then
    if reachesCased before && !reachesCased after then ['ς'] else ['σ']
  else if c = 'İ' then ['i', '\u0307']
  else [lowerChar c]

/-- What a piece becomes between two texts. -/
def lowerWithin (before : List Char) : List Char → List Char → List Char
  | [], _ => []
  | c :: cs, after => image before c (cs ++ after) ++ lowerWithin (c :: before) cs after

theorem lowerFrom_eq (before cs : List Char) : lowerFrom before cs = lowerWithin before cs [] := by
  induction cs generalizing before with
  | nil => rfl
  | cons c cs ih =>
      rw [lowerFrom, lowerWithin, ih, List.append_nil]
      rfl

/-- A text on its own has nothing before it and nothing behind it. -/
theorem lower_eq (cs : List Char) : lower cs = lowerWithin [] cs [] := lowerFrom_eq [] cs

theorem lowerWithin_append (before piece rest after : List Char) :
    lowerWithin before (piece ++ rest) after
      = lowerWithin before piece (rest ++ after)
        ++ lowerWithin (piece.reverse ++ before) rest after := by
  induction piece generalizing before with
  | nil => rfl
  | cons c cs ih => simp [lowerWithin, ih]

/-- The lower case of a text cut in three. -/
theorem lower_pieces (front piece back : List Char) :
    lower (front ++ piece ++ back)
      = lowerWithin [] front (piece ++ back)
        ++ lowerWithin front.reverse piece back
        ++ lowerWithin (piece.reverse ++ front.reverse) back [] := by
  rw [lower_eq, List.append_assoc, lowerWithin_append, lowerWithin_append]
  simp

-- ========================================================= capital sigmas

theorem length_image (before before' : List Char) (c : Char) (after after' : List Char) :
    (image before c after).length = (image before' c after').length := by
  unfold image
  split
  · split <;> split <;> rfl
  · split <;> rfl

theorem length_lowerWithin (before before' piece after after' : List Char) :
    (lowerWithin before piece after).length = (lowerWithin before' piece after').length := by
  induction piece generalizing before before' with
  | nil => rfl
  | cons c cs ih =>
      rw [lowerWithin, lowerWithin, List.length_append, List.length_append,
        length_image before before' c (cs ++ after) (cs ++ after'), ih (c :: before) (c :: before')]

/-- A character comes out the same in two places unless it is a capital
sigma that ends a word in one of them only. -/
theorem image_eq_iff :
    image before c after = image before' c after'
      ↔ (c = 'Σ' → (reachesCased before && !reachesCased after)
          = (reachesCased before' && !reachesCased after')) := by
  unfold image
  by_cases hc : c = 'Σ'
  · rw [if_pos hc, if_pos hc]
    cases reachesCased before && !reachesCased after <;>
      cases reachesCased before' && !reachesCased after' <;> simp [hc]
  · rw [if_neg hc, if_neg hc]
    exact iff_of_true rfl fun h => absurd h hc

/-- A piece comes out the same in two places exactly if each of its
capital sigmas ends a word in both or in neither. -/
theorem lowerWithin_eq_iff :
    lowerWithin before piece after = lowerWithin before' piece after'
      ↔ ∀ u v, piece = u ++ 'Σ' :: v →
          (reachesCased (u.reverse ++ before) && !reachesCased (v ++ after))
            = (reachesCased (u.reverse ++ before') && !reachesCased (v ++ after')) := by
  induction piece generalizing before before' with
  | nil => simp [lowerWithin]
  | cons c cs ih =>
      have hsplit : lowerWithin before (c :: cs) after = lowerWithin before' (c :: cs) after'
          ↔ image before c (cs ++ after) = image before' c (cs ++ after')
            ∧ lowerWithin (c :: before) cs after = lowerWithin (c :: before') cs after' := by
        rw [lowerWithin, lowerWithin]
        constructor
        · intro h
          exact List.append_inj h (length_image _ _ _ _ _)
        · rintro ⟨himage, hrest⟩
          rw [himage, hrest]
      rw [hsplit, image_eq_iff, ih]
      constructor
      · rintro ⟨hhead, htail⟩ u v huv
        cases u with
        | nil =>
            obtain ⟨rfl, rfl⟩ := List.cons.inj huv
            exact hhead rfl
        | cons d u =>
            obtain ⟨rfl, rfl⟩ := List.cons.inj huv
            simpa using htail u v rfl
      · intro h
        constructor
        · rintro rfl
          exact h [] cs rfl
        · rintro u v rfl
          simpa using h (c :: u) v rfl

/-- A place is known by whether its two sides reach a cased letter. -/
theorem lowerWithin_congr (hbefore : reachesCased before = reachesCased before')
    (hafter : reachesCased after = reachesCased after') (piece : List Char) :
    lowerWithin before piece after = lowerWithin before' piece after' := by
  refine lowerWithin_eq_iff.2 fun u v _ => ?_
  rw [reachesCased_append_congr hbefore, reachesCased_append_congr hafter]

-- ====================================================== pieces of a text

/-- Whether a capital sigma between the two texts stands at the end of a
word, where it takes its final form. -/
def endsWord (before after : List Char) : Bool :=
  reachesCased before.reverse && !reachesCased after

/-- Every capital sigma of the piece has the form between the two texts
that it has in the piece alone. -/
def KeepsSigmas (front piece back : List Char) : Prop :=
  ∀ u v, piece = u ++ 'Σ' :: v → endsWord (front ++ u) (v ++ back) = endsWord u v

theorem lowerWithin_eq_lower_iff {front back : List Char} :
    lowerWithin front.reverse piece back = lower piece ↔ KeepsSigmas front piece back := by
  rw [lower_eq, lowerWithin_eq_iff]
  simp only [KeepsSigmas, endsWord, List.reverse_append, List.append_nil]

theorem keepsSigmas_of_not_mem (h : 'Σ' ∉ piece) (front back : List Char) :
    KeepsSigmas front piece back := by
  rintro u v rfl
  simp at h

section Pieces

variable {front back : List Char}

/-- A piece is a prefix in lower case exactly if it keeps its sigmas. -/
theorem lower_prefix_iff : lower piece <+: lower (piece ++ back) ↔ KeepsSigmas [] piece back := by
  have hwhole : lower (piece ++ back)
      = lowerWithin [] piece back ++ lowerWithin piece.reverse back [] := by
    simpa [lowerWithin] using lower_pieces [] piece back
  rw [← lowerWithin_eq_lower_iff, hwhole]
  constructor
  · rintro ⟨rest, hrest⟩
    rw [lower_eq] at hrest ⊢
    exact (List.append_inj hrest (length_lowerWithin _ _ _ _ _)).1.symm
  · intro h
    exact ⟨_, by rw [← h]; rfl⟩

/-- A piece is a suffix in lower case exactly if it keeps its sigmas. -/
theorem lower_suffix_iff : lower piece <:+ lower (front ++ piece) ↔ KeepsSigmas front piece [] := by
  have hwhole : lower (front ++ piece)
      = lowerWithin [] front piece ++ lowerWithin front.reverse piece [] := by
    simpa [lowerWithin] using lower_pieces front piece []
  rw [← lowerWithin_eq_lower_iff, hwhole]
  constructor
  · rintro ⟨rest, hrest⟩
    rw [lower_eq] at hrest ⊢
    exact (List.append_inj' hrest (length_lowerWithin _ _ _ _ _)).2.symm
  · intro h
    exact ⟨_, by rw [h]⟩

/-- The lower case of the piece occurs in that of the text, but not at the
place of the piece. -/
def OccursElsewhere (front piece back : List Char) : Prop :=
  ∃ l r, lower (front ++ piece ++ back) = l ++ lower piece ++ r ∧ l.length ≠ (lower front).length

/-- A piece is found in lower case exactly if it keeps its sigmas, or by
chance at another place. -/
theorem lower_infix_iff :
    lower piece <:+: lower (front ++ piece ++ back)
      ↔ KeepsSigmas front piece back ∨ OccursElsewhere front piece back := by
  rw [← lowerWithin_eq_lower_iff]
  constructor
  · rintro ⟨l, r, hlr⟩
    by_cases hlength : l.length = (lower front).length
    · refine .inl ?_
      rw [lower_pieces, List.append_assoc, List.append_assoc] at hlr
      have hfront : l.length = (lowerWithin [] front (piece ++ back)).length := by
        rw [hlength, lower_eq]
        exact length_lowerWithin _ _ _ _ _
      have hrest := (List.append_inj hlr hfront).2
      have hpiece : (lower piece).length = (lowerWithin front.reverse piece back).length := by
        rw [lower_eq]
        exact length_lowerWithin _ _ _ _ _
      exact (List.append_inj hrest hpiece).1.symm
    · exact .inr ⟨l, r, hlr.symm, hlength⟩
  · rintro (h | ⟨l, r, hlr, -⟩)
    · rw [lower_pieces, h]
      exact ⟨_, _, rfl⟩
    · exact ⟨l, r, hlr.symm⟩

end Pieces

end TableApi.Text
