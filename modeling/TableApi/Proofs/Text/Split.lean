/-
Pieces of a text between separators.

A text with a separator in it is cut there, and both sides are cut on
their own; a text without one is its only piece. So the pieces are what
stands between two separators that are neighbours, or between one and an
end of the text (`mem_splitOn_iff`). What is put in front of a text or
behind it goes to its first or last piece.
-/
import Mathlib.Data.List.Basic
import TableApi.Proofs.Text.Blank
import TableApi.Text.Split

namespace TableApi.Text

variable {sep c : Char} {cs front back piece : List Char}

/-- A separator in front makes an empty piece. -/
theorem splitOn_cons_self (sep : Char) (cs : List Char) :
    (sep :: cs).splitOn sep = [] :: cs.splitOn sep :=
  List.splitOn_append_cons_self_of_not_mem List.not_mem_nil cs

/-- Any other character in front is one more of the first piece. -/
theorem exists_splitOn_cons (h : c ≠ sep) (cs : List Char) :
    ∃ piece pieces, cs.splitOn sep = piece :: pieces
      ∧ (c :: cs).splitOn sep = (c :: piece) :: pieces := by
  obtain ⟨piece, pieces, hpieces⟩ := List.exists_cons_of_ne_nil (List.splitOn_ne_nil sep cs)
  refine ⟨piece, pieces, hpieces, ?_⟩
  rw [List.splitOn_cons_eq_if_modifyHead, if_neg (by simpa using h), hpieces, List.modifyHead_cons]

/-- The pieces have all characters of the text but the separators. -/
theorem exists_mem_splitOn_iff (hc : c ≠ sep) :
    (∃ piece ∈ cs.splitOn sep, c ∈ piece) ↔ c ∈ cs := by
  induction cs with
  | nil => simp
  | cons d ds ih =>
      rw [List.mem_cons, ← ih]
      by_cases hd : d = sep
      · rw [hd, splitOn_cons_self]
        simp [hc]
      · obtain ⟨piece, pieces, hds, hcons⟩ := exists_splitOn_cons hd ds
        rw [hds, hcons]
        simp [or_assoc]

/-- Between separators there is nothing. -/
theorem eq_nil_of_mem_splitOn (h : ∀ c ∈ cs, c = sep) : ∀ piece ∈ cs.splitOn sep, piece = [] := by
  induction cs with
  | nil => exact List.forall_mem_singleton.2 rfl
  | cons c cs ih =>
      obtain ⟨rfl, hcs⟩ := List.forall_mem_cons.1 h
      rw [splitOn_cons_self]
      exact List.forall_mem_cons.2 ⟨rfl, ih hcs⟩

/-- Separators behind a text bring empty pieces only. -/
theorem mem_splitOn_append (hpiece : piece ≠ []) {seps : List Char} (hseps : ∀ c ∈ seps, c = sep) :
    piece ∈ (cs ++ seps).splitOn sep ↔ piece ∈ cs.splitOn sep := by
  cases seps with
  | nil => rw [List.append_nil]
  | cons d seps =>
      obtain ⟨rfl, hrest⟩ := List.forall_mem_cons.1 hseps
      rw [List.splitOn_append_cons_self, List.mem_append]
      apply or_iff_left
      intro hmem
      exact hpiece (eq_nil_of_mem_splitOn hrest piece hmem)

-- ================================================== what stands in a text

/-- The piece has no separator, and stands in the text between two of them
or between one and an end. -/
def IsPiece (sep : Char) (text piece : List Char) : Prop :=
  sep ∉ piece ∧ ∃ front back, text = front ++ piece ++ back
    ∧ (front = [] ∨ front.getLast? = some sep) ∧ (back = [] ∨ back.head? = some sep)

/-- What stands in a text behind a separator stands in it. -/
theorem IsPiece.behind (h : IsPiece sep cs piece) (front : List Char) :
    IsPiece sep (front ++ sep :: cs) piece := by
  obtain ⟨hfree, before, after, rfl, hbefore, hafter⟩ := h
  refine ⟨hfree, front ++ sep :: before, after, by simp, .inr ?_, hafter⟩
  rcases hbefore with rfl | hbefore
  · rw [List.getLast?_concat]
  · rw [List.getLast?_append, List.getLast?_cons, hbefore]
    rfl

/-- The text is cut at its first separator, and the rest of it again. -/
theorem isPiece_of_mem_splitOn {cs : List Char} (h : piece ∈ cs.splitOn sep) :
    IsPiece sep cs piece := by
  by_cases hmem : sep ∈ cs
  · obtain ⟨front, rest, hcs, hfront⟩ := List.eq_append_cons_of_mem hmem
    rw [hcs, List.splitOn_append_cons_self_of_not_mem hfront] at h
    rcases List.mem_cons.1 h with rfl | h
    · exact ⟨hfront, [], sep :: rest, hcs, .inl rfl, .inr rfl⟩
    · have hshorter : rest.length < cs.length := by
        rw [hcs, List.length_append, List.length_cons]
        omega
      rw [hcs]
      exact (isPiece_of_mem_splitOn h).behind front
  · rw [List.splitOn_eq_singleton hmem] at h
    obtain rfl := List.mem_singleton.1 h
    exact ⟨hmem, [], [], by simp, .inl rfl, .inl rfl⟩
termination_by cs.length

/-- What stands in front of the piece is cut off as a whole. -/
theorem IsPiece.mem_splitOn (h : IsPiece sep cs piece) : piece ∈ cs.splitOn sep := by
  obtain ⟨hfree, front, back, rfl, hfront, hback⟩ := h
  have hbegins : piece ∈ (piece ++ back).splitOn sep := by
    rcases hback with rfl | hback
    · rw [List.append_nil, List.splitOn_eq_singleton hfree]
      exact List.mem_singleton_self piece
    · obtain ⟨rest, rfl⟩ := List.head?_eq_some_iff.1 hback
      rw [List.splitOn_append_cons_self_of_not_mem hfree]
      exact List.mem_cons_self
  rcases hfront with rfl | hfront
  · exact hbegins
  · obtain ⟨rest, rfl⟩ := List.getLast?_eq_some_iff.1 hfront
    rw [List.append_assoc, List.append_assoc, List.singleton_append,
      List.splitOn_append_cons_self]
    exact List.mem_append_right _ hbegins

/-- A text is cut into just the pieces that stand in it. -/
theorem mem_splitOn_iff : piece ∈ cs.splitOn sep ↔ IsPiece sep cs piece :=
  ⟨isPiece_of_mem_splitOn, IsPiece.mem_splitOn⟩

-- ============================================================ the two ends

/-- What is put in front of a text goes to its first piece. -/
theorem exists_splitOn_prepend (h : sep ∉ front) (cs : List Char) :
    ∃ piece pieces, cs.splitOn sep = piece :: pieces
      ∧ (front ++ cs).splitOn sep = (front ++ piece) :: pieces := by
  induction front with
  | nil =>
      obtain ⟨piece, pieces, hpieces⟩ := List.exists_cons_of_ne_nil (List.splitOn_ne_nil sep cs)
      exact ⟨piece, pieces, hpieces, hpieces⟩
  | cons c front ih =>
      obtain ⟨hc, hfront⟩ := not_or.1 (List.mem_cons.not.1 h)
      obtain ⟨piece, pieces, hcs, hpieces⟩ := ih hfront
      obtain ⟨first, rest, hrest, hcons⟩ := exists_splitOn_cons (Ne.symm hc) (front ++ cs)
      obtain ⟨rfl, rfl⟩ := List.cons.inj (hpieces.symm.trans hrest)
      exact ⟨piece, pieces, hcs, hcons⟩

/-- What is put behind a text goes to its last piece. -/
theorem exists_splitOn_append (h : sep ∉ back) (cs : List Char) :
    ∃ pieces piece, cs.splitOn sep = pieces ++ [piece]
      ∧ (cs ++ back).splitOn sep = pieces ++ [piece ++ back] := by
  induction cs with
  | nil => exact ⟨[], [], rfl, List.splitOn_eq_singleton h⟩
  | cons c cs ih =>
      obtain ⟨pieces, piece, hpieces, hback⟩ := ih
      rw [List.cons_append, List.splitOn_cons_eq_if_modifyHead,
        List.splitOn_cons_eq_if_modifyHead, hpieces, hback]
      by_cases hc : (c == sep) = true
      · rw [if_pos hc, if_pos hc]
        exact ⟨[] :: pieces, piece, rfl, rfl⟩
      · rw [if_neg hc, if_neg hc]
        cases pieces with
        | nil => exact ⟨[], c :: piece, rfl, rfl⟩
        | cons first pieces => exact ⟨(c :: first) :: pieces, piece, rfl, rfl⟩

/-- White space around a text is white space around its pieces. -/
theorem Pads.map_trim_splitOn {padded : List Char} (h : Pads cs padded)
    (hsep : isBlank sep = false) :
    (padded.splitOn sep).map trim = (cs.splitOn sep).map trim := by
  have hfree : ∀ {blanks : List Char}, isAllBlank blanks = true → sep ∉ blanks := by
    intro blanks hblanks
    exact Pads.not_mem ⟨blanks, [], hblanks, rfl, by simp⟩ hsep List.not_mem_nil
  obtain ⟨before, after, hbefore, hafter, rfl⟩ := h
  obtain ⟨first, rest, hcs, hfront⟩ := exists_splitOn_prepend (hfree hbefore) cs
  obtain ⟨pieces, last, hpieces, hback⟩ := exists_splitOn_append (hfree hafter) (before ++ cs)
  have hfirst : trim (before ++ first) = trim first :=
    Pads.trim_eq ⟨before, [], hbefore, rfl, by simp⟩
  have hlast : trim (last ++ after) = trim last :=
    Pads.trim_eq ⟨[], after, rfl, hafter, by simp⟩
  calc ((before ++ cs ++ after).splitOn sep).map trim
      = (pieces ++ [last]).map trim := by
        rw [hback, List.map_append, List.map_append, List.map_singleton, List.map_singleton, hlast]
    _ = (cs.splitOn sep).map trim := by
        rw [← hpieces, hfront, hcs, List.map_cons, List.map_cons, hfirst]

-- ======================================================= the first of them

/-- A text without the separator is not cut in two. -/
theorem splitOnce?_eq_none (h : sep ∉ cs) : splitOnce? sep cs = none := by
  induction cs with
  | nil => rfl
  | cons c cs ih =>
      obtain ⟨hc, hcs⟩ := not_or.1 (List.mem_cons.not.1 h)
      rw [splitOnce?, if_neg (Ne.symm hc), ih hcs]
      rfl

/-- A text is cut in two at its first separator. -/
theorem splitOnce?_append (h : sep ∉ front) (back : List Char) :
    splitOnce? sep (front ++ sep :: back) = some (front, back) := by
  induction front with
  | nil => rw [List.nil_append, splitOnce?, if_pos rfl]
  | cons c front ih =>
      obtain ⟨hc, hfront⟩ := not_or.1 (List.mem_cons.not.1 h)
      rw [List.cons_append, splitOnce?, if_neg (Ne.symm hc), ih hfront]
      rfl

end TableApi.Text
