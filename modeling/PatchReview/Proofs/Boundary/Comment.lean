/-
A comment says nothing about imports.

Going through a line for its comment means to know which quote is open.  `openAfter` says
it of any text: a quote is opened outside quotes and closed by itself, and inside quotes a
backslash takes the code point behind it along, even past the end.  A comment mark counts
where no quote is open, so the code of a line ends at the first such mark.

When a comment is put behind some code, the mark may begin one code point early: the last
slash of the code and the first one of the mark make a mark themselves.  The code that is
looked at is then one slash shorter, and a slash is no quote.
-/
import PatchReview.Proofs.Boundary.Import

namespace PatchReview

namespace Import

open CodePoint (ofChar)
open Text (Blank)

/-- The mark that begins a comment. -/
def commentMark : Text := "//"

/-- The quote that is open behind a text when `quote` is open in front of it.  At a comment the
scan ends, outside quotes. -/
def openAfter (quote : Option CodePoint) : Text → Option CodePoint
  | [] => quote
  | c :: t =>
    match quote with
    | some q =>
      if c = '\\' then
        match t with
        | [] => some q
        | _ :: t => openAfter quote t
      else openAfter (if c = q then none else quote) t
    | none =>
      if isQuote c then openAfter (some c) t
      else if c = '/' ∧ t.head? = some (ofChar '/') then none
      else openAfter none t

/-- The part of a line in front of its comment: all of the line, or what stands before the first
comment mark outside quotes. -/
structure CodePart (line part : Text) : Prop where
  ends : part = line ∨
    ∃ comment, line = part ++ (commentMark ++ comment) ∧ openAfter none part = none
  first : ∀ front comment, line = front ++ (commentMark ++ comment) → openAfter none front = none →
    part <+: front

/-! ### One code point of the scan -/

section Step

variable {quote : Option CodePoint} {q c d : CodePoint} {t : Text}

theorem code_escaped :
    code (some q) (ofChar '\\' :: d :: t) = ofChar '\\' :: d :: code (some q) t := rfl

theorem openAfter_escaped :
    openAfter (some q) (ofChar '\\' :: d :: t) = openAfter (some q) t := rfl

theorem code_quoted (hc : c ≠ ofChar '\\') :
    code (some q) (c :: t) = c :: code (if c = q then none else some q) t := by
  cases t with
  | nil | cons => simp [code, hc]

theorem openAfter_quoted (hc : c ≠ ofChar '\\') :
    openAfter (some q) (c :: t) = openAfter (if c = q then none else some q) t := by
  cases t with
  | nil | cons => simp [openAfter, hc]

theorem code_opening (hc : isQuote c = true) : code none (c :: t) = c :: code (some c) t := by
  rw [code, if_pos hc]

theorem openAfter_opening (hc : isQuote c = true) :
    openAfter none (c :: t) = openAfter (some c) t := by
  rw [openAfter, if_pos hc]

theorem code_plain (hc : ¬isQuote c = true)
    (hmark : ¬(c = ofChar '/' ∧ t.head? = some (ofChar '/'))) :
    code none (c :: t) = c :: code none t := by
  rw [code, if_neg hc, if_neg hmark]

theorem openAfter_plain (hc : ¬isQuote c = true)
    (hmark : ¬(c = ofChar '/' ∧ t.head? = some (ofChar '/'))) :
    openAfter none (c :: t) = openAfter none t := by
  rw [openAfter, if_neg hc, if_neg hmark]

end Step

/-! ### A comment behind some code -/

/-- A comment behind a text leaves the code of the text as it is, or takes a slash at its end. -/
theorem code_append_comment {quote : Option CodePoint} {t : Text} (h : openAfter quote t = none)
    (comment : Text) :
    code quote t = code quote (t ++ (commentMark ++ comment)) ∨
      code quote t = code quote (t ++ (commentMark ++ comment)) ++ [ofChar '/'] := by
  fun_induction code quote t with
  | case1 quote =>
      obtain rfl : quote = none := h
      exact Or.inl rfl
  | case2 q => exact absurd h (by simp [openAfter])
  | case3 q d t ih =>
      rw [openAfter_escaped] at h
      simpa only [List.cons_append, code_escaped, List.cons.injEq, true_and] using ih h
  | case4 c t q hc ih =>
      rw [openAfter_quoted hc] at h
      simpa only [List.cons_append, code_quoted hc, List.cons.injEq, true_and] using ih h
  | case5 c t hquote ih =>
      rw [openAfter_opening hquote] at h
      simpa only [List.cons_append, code_opening hquote, List.cons.injEq, true_and] using ih h
  | case6 c t hquote hmark =>
      have hlonger : c = ofChar '/' ∧ (t ++ (commentMark ++ comment)).head? = some (ofChar '/') := by
        rw [List.head?_append, hmark.2]
        exact ⟨hmark.1, rfl⟩
      exact Or.inl (by rw [List.cons_append, code, if_neg hquote, if_pos hlonger])
  | case7 c t hquote hmark ih =>
      rw [openAfter_plain hquote hmark] at h
      by_cases hearly : c = ofChar '/' ∧ (t ++ (commentMark ++ comment)).head? = some (ofChar '/')
      · -- The mark begins at the last slash of the code.
        cases t with
        | nil =>
            refine Or.inr ?_
            rw [hearly.1]
            rfl
        | cons d t => exact absurd hearly hmark
      · simpa only [List.cons_append, code_plain hquote hearly, List.cons.injEq, true_and] using ih h

/-- **A comment does not change what a line imports.** -/
theorem specifier?_append_comment {t : Text} (h : openAfter none t = none) (comment : Text) :
    specifier? (t ++ (commentMark ++ comment)) = specifier? t := by
  have hslash : Unquoted [ofChar '/'] := by
    unfold Unquoted
    decide
  rw [specifier?_eq, specifier?_eq]
  rcases code_append_comment h comment with hcode | hcode
  · rw [hcode]
  · rw [hcode, search_append_of_unquoted hslash, search_append_of_unquoted hslash]

/-! ### The part in front of the comment -/

theorem code_ends (quote : Option CodePoint) (t : Text) :
    code quote t = t ∨
      ∃ comment, t = code quote t ++ (commentMark ++ comment)
        ∧ openAfter quote (code quote t) = none := by
  fun_induction code quote t with
  | case1 => exact Or.inl rfl
  | case2 => exact Or.inl rfl
  | case3 q d t ih =>
      simpa only [List.cons_append, openAfter_escaped, List.cons.injEq, true_and] using ih
  | case4 c t q hc ih =>
      simpa only [List.cons_append, openAfter_quoted hc, List.cons.injEq, true_and] using ih
  | case5 c t hquote ih =>
      simpa only [List.cons_append, openAfter_opening hquote, List.cons.injEq, true_and] using ih
  | case6 c t hquote hmark =>
      obtain ⟨comment, rfl⟩ := List.head?_eq_some_iff.mp hmark.2
      exact Or.inr ⟨comment, by rw [hmark.1]; rfl, rfl⟩
  | case7 c t hquote hmark ih =>
      rcases ih with hall | ⟨comment, ht, hopen⟩
      · exact Or.inl (by rw [hall])
      · refine Or.inr ⟨comment, by rw [List.cons_append, ← ht], ?_⟩
        rw [openAfter, if_neg hquote]
        split
        · rfl
        · exact hopen

/-- The scan finds the part of a line in front of its comment. -/
theorem codePart_code (line : Text) : CodePart line (code none line) where
  ends := code_ends none line
  first front comment hline hfront := by
    rw [hline]
    rcases code_append_comment hfront comment with hcode | hcode
    · rw [← hcode]
      exact code_isPrefix none front
    · exact (List.prefix_append _ _).trans (hcode ▸ code_isPrefix none front)

/-! ### Imports and comments -/

theorem openAfter_of_blank {t : Text} (h : Blank t) : openAfter none t = none := by
  induction t with
  | nil => rfl
  | cons c t ih =>
      have hc : c.isBlank = true := h c (by simp)
      have hquote : ¬isQuote c = true := by
        simp [isQuote_eq_false_of_isBlank hc]
      have hslash : c ≠ ofChar '/' := fun heq => absurd hc (by rw [heq]; decide)
      rw [openAfter_plain hquote fun hmark => hslash hmark.1]
      exact ih fun d hd => h d (by simp [hd])

/-- **Comments never influence what is imported.**  Behind code that leaves no quote open a comment
changes nothing; what is imported stands between quotes in front of the comment and has no quote in
it; and a line that is all comment imports nothing. -/
theorem specifier?_uncommented {t : Text} (h : openAfter none t = none) :
    (∀ comment, specifier? (t ++ (commentMark ++ comment)) = specifier? t) ∧
      (∀ line specifier, specifier? line = some specifier →
        specifier ≠ [] ∧ Unquoted specifier ∧
          ∃ part opening closing, CodePart line part ∧ isPlainQuote opening = true ∧
            isPlainQuote closing = true ∧ opening :: (specifier ++ [closing]) <:+: part) ∧
      ∀ indentation comment, Blank indentation →
        specifier? (indentation ++ (commentMark ++ comment)) = none := by
  refine ⟨specifier?_append_comment h, fun line specifier hspecifier => ?_,
    fun indentation comment hblank => ?_⟩
  · obtain ⟨hsome, hunquoted, opening, closing, hopening, hclosing, hinfix⟩ :=
      quoted_of_specifier? hspecifier
    exact ⟨hsome, hunquoted, code none line, opening, closing, codePart_code line, hopening,
      hclosing, hinfix⟩
  · rw [specifier?_append_comment (openAfter_of_blank hblank)]
    exact specifier?_of_blank hblank

/-- Code that ends with a slash, and a comment that would import something else. -/
theorem specifier?_uncommented_slash :
    let t : Text := "import x from 'a//b' /"
    openAfter none t = none ∧
      specifier? (t ++ (commentMark ++ " from 'c'")) = some ("a//b" : Text) := by
  intro t
  have hopen : openAfter none t = none := by decide +kernel
  exact ⟨hopen, ((specifier?_uncommented hopen).1 " from 'c'").trans (by decide +kernel)⟩

end Import

end PatchReview
