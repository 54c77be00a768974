/-
Patterns that search for a text literally.

The special characters of a text are escaped, runs are put around it, and
the matcher lowers the pattern that comes of it as a whole. That the text
stays literal in this has three parts. Lowering leaves the special
characters alone and makes none of another character. They are letters of
no case, so the backslashes and the runs around the text do not change
which sigma ends a word. Hence the lower case of the pattern is the
pattern of the lower case (`lower_wrapped`), and the tokens of that are
the literals of the lowered text between the runs.
-/
import TableApi.Proofs.Like.Matching
import TableApi.Proofs.Text.LowerCase

namespace TableApi.Like

open Text

-- ==================================================== special characters

/-- The characters that mean something else than themselves in a
pattern. -/
def IsSpecial (c : Char) : Prop := c = '%' ∨ c = '_' ∨ c = '\\'

instance (c : Char) : Decidable (IsSpecial c) :=
  inferInstanceAs (Decidable (c = '%' ∨ c = '_' ∨ c = '\\'))

section Special

variable {before after cs text : List Char} {c : Char}

/-- A special character is escaped by a backslash. -/
theorem escape_cons_special (hc : IsSpecial c) (cs : List Char) :
    escape (c :: cs) = '\\' :: c :: escape cs := by
  unfold IsSpecial at hc
  rw [escape, List.flatMap_cons, if_pos hc]
  rfl

/-- Any other is written as it is. -/
theorem escape_cons_plain (hc : ¬ IsSpecial c) (cs : List Char) :
    escape (c :: cs) = c :: escape cs := by
  unfold IsSpecial at hc
  rw [escape, List.flatMap_cons, if_neg hc]
  rfl

/-- Texts are escaped one behind the other. -/
theorem escape_append (cs ds : List Char) : escape (cs ++ ds) = escape cs ++ escape ds :=
  List.flatMap_append

/-- Without special characters nothing is escaped. -/
theorem escape_of_plain (h : ∀ c ∈ cs, ¬ IsSpecial c) : escape cs = cs := by
  induction cs with
  | nil => rfl
  | cons c cs ih =>
      obtain ⟨hc, hcs⟩ := List.forall_mem_cons.1 h
      rw [escape_cons_plain hc, ih hcs]

/-- An escaped text is read as the literals of the text, whatever stands
behind it. -/
theorem tokens_escape (cs rest : List Char) :
    tokens (escape cs ++ rest) = cs.map .literal ++ tokens rest := by
  induction cs with
  | nil => rfl
  | cons c cs ih =>
      by_cases hc : IsSpecial c
      · rw [escape_cons_special hc]
        show tokens ('\\' :: c :: (escape cs ++ rest)) = _
        rw [tokens_escaped, ih]
        rfl
      · rw [escape_cons_plain hc]
        simp only [IsSpecial, not_or] at hc
        show tokens (c :: (escape cs ++ rest)) = _
        rw [tokens_itself hc.2.2 hc.1 hc.2.1, ih]
        rfl

-- ================================================= lowering what is special

/-- Special characters have no case. -/
theorem not_isCased_special (hc : IsSpecial c) : isCased c = false := by
  rcases hc with rfl | rfl | rfl <;> decide

theorem not_isCaseIgnorable_special (hc : IsSpecial c) : isCaseIgnorable c = false := by
  rcases hc with rfl | rfl | rfl <;> decide +kernel

/-- A special character ends every word. -/
theorem reachesCased_special (hc : IsSpecial c) (cs : List Char) :
    reachesCased (c :: cs) = false := by
  rw [reachesCased_cons, not_isCaseIgnorable_special hc, if_neg Bool.false_ne_true,
    not_isCased_special hc]

theorem isSpecial_slash : IsSpecial '\\' := .inr (.inr rfl)

/-- Special characters are their own lower case. -/
theorem image_special (hc : IsSpecial c) (before after : List Char) :
    image before c after = [c] := by
  have hsigma : c ≠ 'Σ' := by rcases hc with rfl | rfl | rfl <;> decide
  have hdotted : c ≠ 'İ' := by rcases hc with rfl | rfl | rfl <;> decide
  have hlower : lowerChar c = c := by rcases hc with rfl | rfl | rfl <;> decide
  rw [image, if_neg hsigma, if_neg hdotted, hlower]

/-- No run of the case table leads down to a special character. -/
theorem lowerRuns_above : ∀ run ∈ lowerRuns, ('_'.toNat : Int) < run.first + run.offset := by
  decide +kernel

/-- Above the underscore no character is special. -/
theorem not_isSpecial_of_lt (h : '_'.toNat < c.toNat) : ¬ IsSpecial c := by
  rintro (rfl | rfl | rfl) <;> revert h <;> decide

theorem not_isSpecial_ofNat {n : Nat} (h : '_'.toNat < n) : ¬ IsSpecial (Char.ofNat n) := by
  by_cases hn : n.isValidChar
  · have hmade : Char.ofNat n = Char.ofNatAux n hn := dif_pos hn
    have hvalue : (Char.ofNat n).toNat = n := congrArg Char.toNat hmade
    exact not_isSpecial_of_lt (hvalue.symm ▸ h)
  · rw [Char.ofNat, dif_neg hn]
    decide

/-- In ASCII only special characters have special images. -/
theorem toLower_ascii :
    ∀ n < 0x80, IsSpecial (Char.ofNat n).toLower → IsSpecial (Char.ofNat n) := by
  decide +kernel

/-- No other character has a special one for its lower case. -/
theorem not_isSpecial_lowerChar (hc : ¬ IsSpecial c) : ¬ IsSpecial (lowerChar c) := by
  unfold lowerChar
  by_cases hascii : c.toNat < 0x80
  · rw [if_pos hascii]
    have hlower := toLower_ascii c.toNat hascii
    rw [Char.ofNat_toNat] at hlower
    exact mt hlower hc
  · rw [if_neg hascii]
    cases hmoved : moved? lowerRuns c with
    | none => exact hc
    | some d =>
        unfold moved? at hmoved
        obtain ⟨run, hrun, rfl⟩ := Option.map_eq_some_iff.1 hmoved
        have habove := lowerRuns_above run (List.mem_of_find?_eq_some hrun)
        have hholds : run.first ≤ c.toNat := by
          have := List.find?_some hrun
          simp only [CaseRun.holds, decide_eq_true_eq] at this
          exact this.1
        refine not_isSpecial_ofNat ?_
        omega

/-- The lower case of a character that is not special has no special
characters. -/
theorem not_isSpecial_of_mem_image (hc : ¬ IsSpecial c) :
    ∀ d ∈ image before c after, ¬ IsSpecial d := by
  unfold image
  by_cases hsigma : c = 'Σ'
  · rw [if_pos hsigma]
    cases reachesCased before && !reachesCased after with
    | false => exact List.forall_mem_singleton.2 (not_isSpecial_of_lt (by decide))
    | true => exact List.forall_mem_singleton.2 (not_isSpecial_of_lt (by decide))
  · rw [if_neg hsigma]
    by_cases hdotted : c = 'İ'
    · rw [if_pos hdotted]
      show ∀ d ∈ ['i', '\u0307'], ¬ IsSpecial d
      exact List.forall_mem_cons.2 ⟨not_isSpecial_of_lt (by decide),
        List.forall_mem_singleton.2 (not_isSpecial_of_lt (by decide))⟩
    · rw [if_neg hdotted]
      exact List.forall_mem_singleton.2 (not_isSpecial_lowerChar hc)

-- ================================================== lowering the pattern

/-- Escaping shows no other neighbours. -/
theorem reachesCased_escape (cs after : List Char) :
    reachesCased (escape cs ++ after) = reachesCased (cs ++ after) := by
  induction cs with
  | nil => rfl
  | cons c cs ih =>
      by_cases hc : IsSpecial c
      · rw [escape_cons_special hc]
        show reachesCased ('\\' :: _) = reachesCased (c :: _)
        rw [reachesCased_special isSpecial_slash, reachesCased_special hc]
      · rw [escape_cons_plain hc, List.cons_append, List.cons_append, reachesCased_cons,
          reachesCased_cons, ih]

/-- A text may be lowered before it is escaped or behind. -/
theorem lowerWithin_escape (before cs after : List Char) :
    lowerWithin before (escape cs) after = escape (lowerWithin before cs after) := by
  induction cs generalizing before with
  | nil => rfl
  | cons c cs ih =>
      rw [lowerWithin, escape_append]
      by_cases hc : IsSpecial c
      · have hplace : reachesCased (c :: '\\' :: before) = reachesCased (c :: before) := by
          rw [reachesCased_special hc, reachesCased_special hc]
        rw [escape_cons_special hc, lowerWithin, lowerWithin, image_special isSpecial_slash,
          image_special hc, image_special hc, ih, lowerWithin_congr hplace rfl,
          escape_cons_special hc]
        rfl
      · rw [escape_cons_plain hc, lowerWithin, ih,
          escape_of_plain (not_isSpecial_of_mem_image hc)]
        congr 1
        rw [image_eq_iff, reachesCased_escape]
        exact fun _ => rfl

/-- What stands around the text of a pattern: a run or nothing. -/
def IsWrapping (cs : List Char) : Prop := cs = [] ∨ cs = ['%']

/-- From what stands around a text no cased character is reached. -/
theorem reachesCased_wrapping (h : IsWrapping cs) : reachesCased cs = false := by
  rcases h with rfl | rfl
  · rfl
  · exact reachesCased_special (.inl rfl) []

/-- In lower case it is as it was. -/
theorem lowerWithin_wrapping (h : IsWrapping cs) (before after : List Char) :
    lowerWithin before cs after = cs := by
  rcases h with rfl | rfl
  · rfl
  · rw [lowerWithin, image_special (.inl rfl)]
    rfl

/-- The lower case of a pattern for a text is the pattern for the lower
case of the text. -/
theorem lower_wrapped (hbefore : IsWrapping before) (hafter : IsWrapping after) (cs : List Char) :
    lower (before ++ escape cs ++ after) = before ++ escape (lower cs) ++ after := by
  have hreverse : before.reverse = before := by
    rcases hbefore with rfl | rfl <;> rfl
  have hplace : reachesCased before = reachesCased [] := reachesCased_wrapping hbefore
  have hbehind : reachesCased after = reachesCased [] := reachesCased_wrapping hafter
  rw [lower_pieces, lowerWithin_wrapping hbefore, lowerWithin_wrapping hafter, hreverse,
    lowerWithin_escape, lowerWithin_congr hplace hbehind, ← lower_eq]

-- ================================================= what such a pattern finds

/-- Between runs an escaped text is its characters, each literal. -/
theorem tokens_wrapped (hbefore : IsWrapping before) (cs after : List Char) :
    tokens (before ++ escape cs ++ after) = tokens before ++ cs.map .literal ++ tokens after := by
  have hescape := tokens_escape cs after
  rcases hbefore with rfl | rfl
  · exact hescape
  · show tokens ('%' :: (escape cs ++ after)) = _
    rw [tokens_run, hescape]
    rfl

/-- The lowered text is the lowered text of the pattern, with what the
runs around it take. -/
theorem isMatch_wrapped (hbefore : IsWrapping before) (hafter : IsWrapping after) :
    isMatch text (before ++ escape cs ++ after) true = true
      ↔ ∃ front back, front ++ lower cs ++ back = lower text
          ∧ Cut (tokens before) front ∧ Cut (tokens after) back := by
  rw [(isMatch_iff_matches _ _).2, matches_iff, lower_wrapped hbefore hafter,
    tokens_wrapped hbefore, cut_append_iff]
  simp only [cut_append_iff, cut_literals_iff]
  constructor
  · rintro ⟨_, back, htext, ⟨front, _, rfl, hfront, rfl⟩, hback⟩
    exact ⟨front, back, htext.symm, hfront, hback⟩
  · rintro ⟨front, back, htext, hfront, hback⟩
    exact ⟨_, back, htext.symm, ⟨front, _, rfl, hfront, rfl⟩, hback⟩

/-- Every text can be cut for a run. -/
theorem cut_tokens_run : Cut (tokens ['%']) text := cut_run

/-- Only the empty text can be cut for nothing. -/
theorem cut_tokens_nil_iff : Cut (tokens []) text ↔ text = [] := cut_nil_iff

/-- Between two runs a text is found anywhere, in lower case. -/
theorem isMatch_infix_iff :
    isMatch text (['%'] ++ escape cs ++ ['%']) true = true ↔ lower cs <:+: lower text := by
  rw [isMatch_wrapped (.inr rfl) (.inr rfl)]
  simp only [cut_tokens_run, and_true]
  rfl

/-- In front of a run it is found at the start. -/
theorem isMatch_prefix_iff :
    isMatch text ([] ++ escape cs ++ ['%']) true = true ↔ lower cs <+: lower text := by
  rw [isMatch_wrapped (.inl rfl) (.inr rfl)]
  simp only [cut_tokens_run, cut_tokens_nil_iff, and_true]
  constructor
  · rintro ⟨_, back, htext, rfl⟩
    exact ⟨back, htext⟩
  · rintro ⟨back, htext⟩
    exact ⟨[], back, htext, rfl⟩

/-- Behind a run it is found at the end. -/
theorem isMatch_suffix_iff :
    isMatch text (['%'] ++ escape cs ++ []) true = true ↔ lower cs <:+ lower text := by
  rw [isMatch_wrapped (.inr rfl) (.inl rfl)]
  simp only [cut_tokens_run, cut_tokens_nil_iff, true_and]
  constructor
  · rintro ⟨front, _, htext, rfl⟩
    rw [List.append_nil] at htext
    exact ⟨front, htext⟩
  · rintro ⟨front, htext⟩
    exact ⟨front, [], by rw [List.append_nil, htext], rfl⟩

end Special

end TableApi.Like
