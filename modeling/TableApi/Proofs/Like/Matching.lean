/-
What a pattern matches.

A pattern spells a list of tokens, and a text matches it if the text can
be cut into consecutive pieces, one for each token and in the order of
the tokens: any piece for a run, one character for the others. Neither
half of this is how the matcher works. It takes the tokens one by one and
never looks for a cut.

# The row of the matcher

Between two tokens the matcher holds a row of truth values, one for each
place at which the text can be cut in two. `Tracks` is the invariant: the
entry at a place says whether the text before it can be cut for the
tokens taken so far. A token moves a row to the next one (`Tracks.advance`);
the last entry of the last row speaks of the whole text. Each token is
settled by what it does at the end of a text, so the cut of a longer
text is reduced to that of the text without its last character.
-/
import Mathlib.Data.List.Forall2
import TableApi.Like

namespace TableApi.Like

-- =============================================================== tokens

/-- The tokens that a pattern spells. A backslash makes the next character
literal; behind it there is nothing only at the end of the pattern, where
it stands for itself. -/
inductive Spells : List Char → List Token → Prop
  | nil : Spells [] []
  | escaped {c : Char} {cs : List Char} {ts : List Token} :
      Spells cs ts → Spells ('\\' :: c :: cs) (.literal c :: ts)
  | lone : Spells ['\\'] [.literal '\\']
  | run {cs : List Char} {ts : List Token} : Spells cs ts → Spells ('%' :: cs) (.run :: ts)
  | one {cs : List Char} {ts : List Token} : Spells cs ts → Spells ('_' :: cs) (.one :: ts)
  | itself {c : Char} {cs : List Char} {ts : List Token} :
      c ≠ '\\' → c ≠ '%' → c ≠ '_' → Spells cs ts → Spells (c :: cs) (.literal c :: ts)

/-- A backslash makes the next character literal, whatever it is. -/
theorem tokens_escaped (c : Char) (cs : List Char) :
    tokens ('\\' :: c :: cs) = .literal c :: tokens cs := by
  rw [tokens]

/-- A percent sign is a run. -/
theorem tokens_run (cs : List Char) : tokens ('%' :: cs) = .run :: tokens cs := by
  rw [tokens, if_pos rfl]
  all_goals simp

/-- An underscore is one character. -/
theorem tokens_one (cs : List Char) : tokens ('_' :: cs) = .one :: tokens cs := by
  rw [tokens, if_neg (by decide), if_pos rfl]
  all_goals simp

/-- Every other character is itself. -/
theorem tokens_itself {c : Char} (hslash : c ≠ '\\') (hrun : c ≠ '%') (hone : c ≠ '_')
    (cs : List Char) : tokens (c :: cs) = .literal c :: tokens cs := by
  rw [tokens, if_neg hrun, if_neg hone]
  all_goals simp [hslash]

/-- A pattern spells the tokens that it is cut into. -/
theorem spells_tokens (pattern : List Char) : Spells pattern (tokens pattern) := by
  induction hlength : pattern.length using Nat.strongRecOn generalizing pattern with
  | _ n ih =>
      cases pattern with
      | nil => exact .nil
      | cons c cs =>
          have hcs : Spells cs (tokens cs) := by
            refine ih cs.length ?_ cs rfl
            rw [← hlength, List.length_cons]
            omega
          by_cases hslash : c = '\\'
          · subst hslash
            cases cs with
            | nil => exact .lone
            | cons d ds =>
                rw [tokens_escaped]
                refine .escaped (ih ds.length ?_ ds rfl)
                rw [← hlength, List.length_cons, List.length_cons]
                omega
          · by_cases hrun : c = '%'
            · subst hrun
              rw [tokens_run]
              exact .run hcs
            · by_cases hone : c = '_'
              · subst hone
                rw [tokens_one]
                exact .one hcs
              · rw [tokens_itself hslash hrun hone]
                exact .itself hslash hrun hone hcs

/-- Every pattern spells one list of tokens. -/
theorem spells_iff {pattern : List Char} {ts : List Token} :
    Spells pattern ts ↔ tokens pattern = ts := by
  constructor
  · intro h
    induction h with
    | nil => rfl
    | escaped _ ih => rw [tokens_escaped, ih]
    | lone => rfl
    | run _ ih => rw [tokens_run, ih]
    | one _ ih => rw [tokens_one, ih]
    | itself hslash hrun hone _ ih => rw [tokens_itself hslash hrun hone, ih]
  · rintro rfl
    exact spells_tokens pattern

-- ================================================================= cuts

/-- The pieces of a text that a token stands for. -/
inductive Token.Fits : Token → List Char → Prop
  | run (piece : List Char) : Fits .run piece
  | one (c : Char) : Fits .one [c]
  | literal (c : Char) : Fits (.literal c) [c]

/-- The text can be cut into consecutive pieces that fit the tokens in
order. -/
def Cut (ts : List Token) (text : List Char) : Prop :=
  ∃ pieces : List (List Char), List.Forall₂ Token.Fits ts pieces ∧ pieces.flatten = text

section Cut

variable {t : Token} {ts us : List Token} {text front : List Char} {c d : Char}

/-- No tokens are left only for no text. -/
theorem cut_nil_iff : Cut [] text ↔ text = [] := by
  constructor
  · rintro ⟨pieces, hfit, rfl⟩
    rw [List.forall₂_nil_left_iff.1 hfit]
    rfl
  · rintro rfl
    exact ⟨[], .nil, rfl⟩

/-- The first token takes a piece from the front. -/
theorem cut_cons_iff :
    Cut (t :: ts) text ↔ ∃ piece rest, text = piece ++ rest ∧ t.Fits piece ∧ Cut ts rest := by
  constructor
  · rintro ⟨pieces, hfit, rfl⟩
    obtain ⟨piece, rest, hpiece, hrest, rfl⟩ := List.forall₂_cons_left_iff.1 hfit
    exact ⟨piece, rest.flatten, List.flatten_cons, hpiece, rest, hrest, rfl⟩
  · rintro ⟨piece, rest, rfl, hpiece, pieces, hfit, rfl⟩
    exact ⟨piece :: pieces, .cons hpiece hfit, List.flatten_cons⟩

/-- Tokens behind tokens take the rest of the text. -/
theorem cut_append_iff :
    Cut (ts ++ us) text ↔ ∃ front back, text = front ++ back ∧ Cut ts front ∧ Cut us back := by
  induction ts generalizing text with
  | nil => simp [cut_nil_iff]
  | cons t ts ih =>
      simp only [List.cons_append, cut_cons_iff, ih]
      constructor
      · rintro ⟨piece, rest, rfl, hpiece, front, back, rfl, hfront, hback⟩
        exact ⟨piece ++ front, back, (List.append_assoc _ _ _).symm,
          ⟨piece, front, rfl, hpiece, hfront⟩, hback⟩
      · rintro ⟨front, back, rfl, ⟨piece, rest, rfl, hpiece, hrest⟩, hback⟩
        exact ⟨piece, rest ++ back, List.append_assoc _ _ _, hpiece, rest, back, rfl, hrest, hback⟩

/-- A token by itself has to fit the whole text. -/
theorem cut_singleton_iff : Cut [t] text ↔ t.Fits text := by
  simp [cut_cons_iff, cut_nil_iff]

/-- A literal takes the text of its character. -/
theorem fits_literal_iff : (Token.literal c).Fits text ↔ text = [c] := by
  constructor
  · intro h
    cases h with
    | literal c => rfl
  · rintro rfl
    exact .literal c

/-- A run takes all of a text. -/
theorem cut_run : Cut [.run] text := cut_singleton_iff.2 (.run text)

/-- Literals fit the text that they spell and no other. -/
theorem cut_literals_iff {cs : List Char} : Cut (cs.map .literal) text ↔ text = cs := by
  induction cs generalizing text with
  | nil => exact cut_nil_iff
  | cons c cs ih =>
      simp only [List.map_cons, cut_cons_iff, fits_literal_iff, ih]
      constructor
      · rintro ⟨piece, rest, rfl, rfl, rfl⟩
        rfl
      · rintro rfl
        exact ⟨[c], cs, rfl, rfl, rfl⟩

-- What a token at the end does to the end of the text.

/-- A run at the end takes what is left of the text, and that may be
anything. -/
theorem cut_concat_run_iff : Cut (ts ++ [.run]) text ↔ ∃ front, front <+: text ∧ Cut ts front := by
  rw [cut_append_iff]
  constructor
  · rintro ⟨front, back, rfl, hfront, -⟩
    exact ⟨front, List.prefix_append _ _, hfront⟩
  · rintro ⟨front, ⟨back, rfl⟩, hfront⟩
    exact ⟨front, back, rfl, hfront, cut_run⟩

/-- Any other token needs a character. -/
theorem not_cut_concat_nil (ht : t ≠ .run) : ¬ Cut (ts ++ [t]) [] := by
  intro h
  obtain ⟨front, back, hnil, -, hback⟩ := cut_append_iff.1 h
  obtain ⟨-, rfl⟩ := List.append_eq_nil_iff.1 hnil.symm
  cases cut_singleton_iff.1 hback
  exact ht rfl

/-- At the end it takes the last one. -/
theorem cut_concat_iff (ht : t ≠ .run) :
    Cut (ts ++ [t]) (front ++ [d]) ↔ Cut ts front ∧ t.Fits [d] := by
  rw [cut_append_iff]
  constructor
  · rintro ⟨before, back, htext, hbefore, hback⟩
    have hfits := cut_singleton_iff.1 hback
    -- The last piece is one character, so it is the last one of the text.
    have hone : ∃ e, back = [e] := by
      cases hfits with
      | run => exact absurd rfl ht
      | one e => exact ⟨e, rfl⟩
      | literal e => exact ⟨e, rfl⟩
    obtain ⟨e, rfl⟩ := hone
    obtain ⟨rfl, hd⟩ := List.append_inj' htext rfl
    exact ⟨hbefore, hd ▸ hfits⟩
  · rintro ⟨hfront, hfits⟩
    exact ⟨front, [d], rfl, hfront, cut_singleton_iff.2 hfits⟩

end Cut

-- =========================================================== the matcher

/-- The row of the matcher behind some tokens: it says of every place in
the text whether what stands before it can be cut for them. -/
structure Tracks (text : List Char) (taken : List Token) (rests : List Bool) : Prop where
  length_eq : rests.length = text.length + 1
  entry : ∀ j ≤ text.length, rests[j]? = some true ↔ Cut taken (text.take j)

section Tracks

variable {text : List Char} {taken : List Token} {rests : List Bool}

/-- Before any token only the empty text can be cut. -/
theorem tracks_initial (text : List Char) : Tracks text [] (initial text) where
  length_eq := by simp [initial]
  entry := by
    intro j hj
    rw [cut_nil_iff, initial]
    cases j with
    | zero => simp
    | succ j =>
        have hne : text.take (j + 1) ≠ [] := by
          intro hnil
          have hlength := congrArg List.length hnil
          rw [List.length_take, List.length_nil] at hlength
          omega
        simp [List.getElem?_replicate, hne]

/-- A run leaves the row as long as it was. -/
theorem length_afterRun (seen : Bool) (rests : List Bool) :
    (advance.afterRun seen rests).length = rests.length := by
  induction rests generalizing seen with
  | nil => rfl
  | cons r rs ih => rw [advance.afterRun, List.length_cons, ih, List.length_cons]

/-- Behind a run an entry is set if the entry of that place or of an
earlier one was. -/
theorem getElem?_afterRun (seen : Bool) (rests : List Bool) (j : Nat) :
    (advance.afterRun seen rests)[j]? = some true
      ↔ j < rests.length ∧ (seen = true ∨ ∃ i ≤ j, rests[i]? = some true) := by
  induction rests generalizing seen j with
  | nil => simp [advance.afterRun]
  | cons r rs ih =>
      rw [advance.afterRun]
      cases j with
      | zero => simp [Bool.or_eq_true]
      | succ j =>
          have hsplit : (∃ i ≤ j + 1, (r :: rs)[i]? = some true)
              ↔ r = true ∨ ∃ i ≤ j, rs[i]? = some true := by
            constructor
            · rintro ⟨i, hi, hentry⟩
              cases i with
              | zero => exact .inl (by simpa using hentry)
              | succ i => exact .inr ⟨i, by omega, by simpa using hentry⟩
            · rintro (hr | ⟨i, hi, hentry⟩)
              · exact ⟨0, by omega, by simpa using hr⟩
              · exact ⟨i + 1, by omega, by simpa using hentry⟩
          rw [List.getElem?_cons_succ, ih, hsplit, Bool.or_eq_true, or_assoc, List.length_cons]
          exact and_congr_left fun _ => by omega

/-- Behind a literal an entry is set if the one before it was and the
character between the two places is the literal. -/
theorem getElem?_afterLiteral (c : Char) (text : List Char) (rests : List Bool) (j : Nat) :
    (advance.afterLiteral c text rests)[j]? = some true
      ↔ rests[j]? = some true ∧ text[j]? = some c := by
  induction text generalizing rests j with
  | nil => simp [advance.afterLiteral]
  | cons d text ih =>
      cases rests with
      | nil => simp [advance.afterLiteral]
      | cons r rs =>
          rw [advance.afterLiteral]
          cases j with
          | zero =>
              simp only [List.getElem?_cons_zero, Option.some.injEq, Bool.and_eq_true, beq_iff_eq]
              exact and_congr_right fun _ => eq_comm
          | succ j => simpa using ih rs j

/-- A literal leaves the row as long as it was, as far as the text goes. -/
theorem length_afterLiteral (c : Char) (text : List Char) (rests : List Bool) :
    (advance.afterLiteral c text rests).length = min text.length rests.length := by
  induction text generalizing rests with
  | nil => simp [advance.afterLiteral]
  | cons d text ih =>
      cases rests with
      | nil => simp [advance.afterLiteral]
      | cons r rs =>
          rw [advance.afterLiteral, List.length_cons, ih, List.length_cons, List.length_cons]
          omega

/-- Every row has a place before each character and one behind the last. -/
theorem Tracks.length_advance (h : Tracks text taken rests) (t : Token) :
    (advance text rests t).length = text.length + 1 := by
  have hlength := h.length_eq
  cases t with
  | run => rw [advance, length_afterRun, hlength]
  | one =>
      rw [advance, List.length_cons, List.length_dropLast]
      omega
  | literal c =>
      rw [advance, List.length_cons, length_afterLiteral]
      omega

/-- A token other than a run takes the character before the place. -/
theorem Tracks.entry_succ (h : Tracks text taken rests) {t : Token} (ht : t ≠ .run) {j : Nat}
    (hj : j < text.length) :
    Cut (taken ++ [t]) (text.take (j + 1)) ↔ rests[j]? = some true ∧ t.Fits [text[j]] := by
  rw [List.take_succ_eq_append_getElem hj, cut_concat_iff ht, h.entry j (by omega)]

/-- One more token moves the row on. -/
theorem Tracks.advance (h : Tracks text taken rests) (t : Token) :
    Tracks text (taken ++ [t]) (advance text rests t) where
  length_eq := h.length_advance t
  entry := by
    intro j hj
    have hlength := h.length_eq
    cases t with
    | run =>
        rw [Like.advance, getElem?_afterRun, cut_concat_run_iff]
        constructor
        · rintro ⟨-, hseen | ⟨i, hi, hentry⟩⟩
          · cases hseen
          · refine ⟨text.take i, ?_, (h.entry i (by omega)).1 hentry⟩
            exact List.take_prefix_take_left hi
        · rintro ⟨front, hfront, hcut⟩
          have hle : front.length ≤ j := by
            have := hfront.length_le
            rw [List.length_take] at this
            omega
          have htake : front = text.take front.length :=
            List.prefix_iff_eq_take.1 (hfront.trans (List.take_prefix j text))
          refine ⟨by omega, .inr ⟨front.length, hle, (h.entry _ (by omega)).2 ?_⟩⟩
          rwa [← htake]
    | one =>
        cases j with
        | zero =>
            rw [Like.advance, List.take_zero]
            exact iff_of_false (by simp) (not_cut_concat_nil (by simp))
        | succ j =>
            rw [h.entry_succ (by simp) hj, Like.advance, List.getElem?_cons_succ,
              List.getElem?_dropLast, if_pos (by omega)]
            exact (and_iff_left (.one _)).symm
    | literal c =>
        cases j with
        | zero =>
            rw [Like.advance, List.take_zero]
            exact iff_of_false (by simp) (not_cut_concat_nil (by simp))
        | succ j =>
            rw [h.entry_succ (by simp) hj, Like.advance, List.getElem?_cons_succ,
              getElem?_afterLiteral, fits_literal_iff, List.getElem?_eq_getElem hj]
            simp

/-- By induction on the tokens, the rows of the matcher keep track of them.
-/
theorem tracks_foldl (h : Tracks text taken rests) (ts : List Token) :
    Tracks text (taken ++ ts) (ts.foldl (Like.advance text) rests) := by
  induction ts generalizing taken rests with
  | nil => simpa using h
  | cons t ts ih => simpa using ih (h.advance t)

end Tracks

/-- The matcher accepts what can be cut for the tokens. -/
theorem matchTokens_iff {text : List Char} {ts : List Token} :
    matchTokens text ts = true ↔ Cut ts text := by
  have htracks := tracks_foldl (tracks_initial text) ts
  rw [List.nil_append] at htracks
  have hentry := htracks.entry text.length (Nat.le_refl _)
  rw [List.take_length] at hentry
  rw [← hentry, matchTokens, List.getLastD_eq_getLast?, List.getLast?_eq_getElem?,
    htracks.length_eq, Nat.add_sub_cancel]
  cases (ts.foldl (Like.advance text) (initial text))[text.length]? <;> simp

-- =========================================================== the patterns

/-- The text can be cut for the tokens that the pattern spells. -/
def Matches (pattern text : List Char) : Prop := ∃ ts, Spells pattern ts ∧ Cut ts text

/-- What can be cut for what a pattern spells can be cut for its tokens: it
spells nothing else. -/
theorem matches_iff {pattern text : List Char} :
    Matches pattern text ↔ Cut (tokens pattern) text := by
  constructor
  · rintro ⟨ts, hspells, hcut⟩
    rwa [spells_iff.1 hspells]
  · intro h
    exact ⟨_, spells_tokens pattern, h⟩

/-- A text matches a pattern exactly if it can be cut into consecutive
pieces for the tokens of the pattern; ignoring case, exactly if the lower
case of the text can be cut for the lower case of the pattern. -/
theorem isMatch_iff_matches (text pattern : List Char) :
    (isMatch text pattern false = true ↔ Matches pattern text)
      ∧ (isMatch text pattern true = true ↔ Matches (Text.lower pattern) (Text.lower text)) := by
  rw [matches_iff, matches_iff]
  exact ⟨matchTokens_iff, matchTokens_iff⟩

end TableApi.Like
