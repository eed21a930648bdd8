/-
Texts in front of texts, and texts cut into lines.

A text starts with another one exactly when the second can be dropped from it, which is
how every header of a diff is recognised.  A line is cut off at its line feed as long as
no carriage return stands right before it: such a return would be taken for a part of
the ending.  `Text.IsLine` is that condition, and under it joining lines and cutting the
joined text undo each other.  A carriage return that stands alone ends no line until the
endings are unified, so that a text without one has the same lines before and after.
-/
import PatchReview.Text.Blank
import PatchReview.Text.Lines

namespace PatchReview

namespace Text

open CodePoint (lineFeed carriageReturn)

/-! ### Dropping a start -/

@[simp] theorem dropStart?_append (start t : Text) : dropStart? start (start ++ t) = some t := by
  induction start with
  | nil => rfl
  | cons a start ih => simp [dropStart?, ih]

theorem eq_append_of_dropStart? {start t rest : Text} (h : dropStart? start t = some rest) :
    t = start ++ rest := by
  induction start generalizing t with
  | nil =>
      simp only [dropStart?, Option.some.injEq] at h
      rw [h, List.nil_append]
  | cons a start ih =>
      cases t with
      | nil => simp [dropStart?] at h
      | cons b t =>
          simp only [dropStart?] at h
          split at h
          · rename_i hab
            rw [ih h, hab, List.cons_append]
          · simp at h

theorem startsWith_iff {start t : Text} : t.startsWith start = true ↔ start <+: t := by
  rw [startsWith, List.isPrefixOf_iff_prefix]

/-- What does not start with a mark has nothing to drop. -/
theorem dropStart?_eq_none {start t : Text} (h : startsWith t start = false) :
    dropStart? start t = none := by
  cases hd : dropStart? start t with
  | none => rfl
  | some rest =>
      have : startsWith t start = true := by
        rw [startsWith_iff, eq_append_of_dropStart? hd]
        exact List.prefix_append start rest
      rw [h] at this
      exact absurd this (by simp)

/-- A text that does not start with a mark does not start with a longer one. -/
theorem startsWith_append_eq_false {start t : Text} (more : Text) (h : startsWith t start = false) :
    startsWith t (start ++ more) = false := by
  cases hs : startsWith t (start ++ more) with
  | false => rfl
  | true =>
      have hle : start <+: t := (List.prefix_append start more).trans (startsWith_iff.mp hs)
      rw [startsWith_iff.mpr hle] at h
      exact absurd h (by simp)

/-! ### Cutting at a code point -/

theorem before_of_not_mem {c : CodePoint} {t : Text} (h : c ∉ t) : before c t = t := by
  have hall : ∀ d ∈ t, (d != c) = true := by
    intro d hd
    have hne : d ≠ c := fun hdc => h (hdc ▸ hd)
    simpa using hne
  simpa [before] using @List.takeWhile_append_of_pos _ _ t [] hall

/-- A text up to a code point that is found behind it. -/
theorem before_append {c : CodePoint} {t : Text} (h : c ∉ t) (rest : Text) :
    before c (t ++ c :: rest) = t := by
  have hall : ∀ d ∈ t, (d != c) = true := by
    intro d hd
    have hne : d ≠ c := fun hdc => h (hdc ▸ hd)
    simpa using hne
  rw [before, List.takeWhile_append_of_pos hall, List.takeWhile_cons_of_neg (by simp),
    List.append_nil]

theorem not_mem_before (c : CodePoint) (t : Text) : c ∉ before c t := by
  intro hmem
  have hall : ∀ d ∈ before c t, (d != c) = true := by
    intro d hd
    exact List.all_eq_true.mp List.all_takeWhile d hd
  exact absurd (hall c hmem) (by simp)

/-- Behind the text before a code point stands that code point, if anything. -/
theorem before_eq_self_or (c : CodePoint) (t : Text) :
    before c t = t ∨ ∃ behind, t = before c t ++ c :: behind := by
  induction t with
  | nil => exact Or.inl rfl
  | cons d t ih =>
      by_cases hd : d = c
      · subst hd
        refine Or.inr ⟨t, ?_⟩
        rw [before, List.takeWhile_cons_of_neg (by simp), List.nil_append]
      · have hcons : before c (d :: t) = d :: before c t := by
          rw [before, List.takeWhile_cons_of_pos (by simpa using hd), before]
        rw [hcons]
        rcases ih with hall | ⟨behind, hbehind⟩
        · exact Or.inl (by rw [hall])
        · exact Or.inr ⟨behind, by rw [List.cons_append, ← hbehind]⟩

theorem exists_eq_before_append {c : CodePoint} {t : Text} (h : c ∈ t) :
    ∃ behind, t = before c t ++ c :: behind :=
  (before_eq_self_or c t).resolve_left fun hall => not_mem_before c t (hall.symm ▸ h)

/-- What stands behind the first cut does not matter for what stands before it. -/
theorem before_append_of_mem {c : CodePoint} {t : Text} (h : c ∈ t) (rest : Text) :
    before c (t ++ rest) = before c t := by
  obtain ⟨behind, hbehind⟩ := exists_eq_before_append h
  have hnot := not_mem_before c t
  generalize before c t = front at hbehind hnot
  rw [hbehind, List.append_assoc, List.cons_append, before_append hnot]

/-- Behind the last `c` stands the part that has none, so a text is cut there in one way only. -/
theorem append_cons_inj {c : CodePoint} {s s' t t' : Text} (ht : c ∉ t) (ht' : c ∉ t')
    (h : s ++ c :: t = s' ++ c :: t') : s = s' ∧ t = t' := by
  have hreverse : t.reverse ++ c :: s.reverse = t'.reverse ++ c :: s'.reverse := by
    simpa using congrArg List.reverse h
  have hbefore := congrArg (before c) hreverse
  rw [before_append (by simpa using ht), before_append (by simpa using ht'),
    List.reverse_inj] at hbefore
  subst hbefore
  exact ⟨List.append_cancel_right h, rfl⟩

theorem splitOn_of_not_mem {c : CodePoint} {t : Text} (h : c ∉ t) : splitOn c t = [t] := by
  induction t with
  | nil => rfl
  | cons d t ih =>
      have hd : d ≠ c := fun hdc => h (hdc ▸ List.mem_cons_self)
      have ht : c ∉ t := fun hmem => h (List.mem_cons_of_mem d hmem)
      simp only [splitOn, if_neg hd, ih ht]

/-- The first part of a text stands before the first cut. -/
theorem splitOn_append {c : CodePoint} {s : Text} (h : c ∉ s) (t : Text) :
    splitOn c (s ++ c :: t) = s :: splitOn c t := by
  induction s with
  | nil => simp [splitOn]
  | cons d s ih =>
      have hd : d ≠ c := fun hdc => h (hdc ▸ List.mem_cons_self)
      have hs : c ∉ s := fun hmem => h (List.mem_cons_of_mem d hmem)
      rw [List.cons_append, splitOn, if_neg hd, ih hs]

/-- A text is cut nowhere, or behind its first part. -/
theorem splitOn_cases (c : CodePoint) (t : Text) :
    c ∉ t ∧ splitOn c t = [t] ∨
      ∃ s rest, t = s ++ c :: rest ∧ c ∉ s ∧ splitOn c t = s :: splitOn c rest := by
  have hbefore := not_mem_before c t
  rcases before_eq_self_or c t with hall | ⟨rest, hrest⟩
  · rw [hall] at hbefore
    exact Or.inl ⟨hbefore, splitOn_of_not_mem hbefore⟩
  · refine Or.inr ⟨before c t, rest, hrest, hbefore, ?_⟩
    calc splitOn c t = splitOn c (before c t ++ c :: rest) := by rw [← hrest]
      _ = before c t :: splitOn c rest := splitOn_append hbefore rest

theorem splitOn_ne_nil (c : CodePoint) (t : Text) : splitOn c t ≠ [] := by
  rcases splitOn_cases c t with ⟨-, hsplit⟩ | ⟨s, rest, -, -, hsplit⟩
  · simp [hsplit]
  · simp [hsplit]

/-- A text is cut at one place after another, so what holds of a text without cuts, and of a text
with a first part if it holds of the rest, holds of every text. -/
theorem splitOn_induction (c : CodePoint) {motive : Text → Prop}
    (whole : ∀ t, c ∉ t → motive t)
    (cut : ∀ s rest, c ∉ s → motive rest → motive (s ++ c :: rest)) (t : Text) : motive t := by
  rcases splitOn_cases c t with ⟨hnot, -⟩ | ⟨s, rest, ht, hnot, -⟩
  · exact whole t hnot
  · have hshorter : rest.length < t.length := by
      rw [ht, List.length_append, List.length_cons]
      omega
    exact ht ▸ cut s rest hnot (splitOn_induction c whole cut rest)
termination_by t.length
decreasing_by exact hshorter

/-- No part has a code point in it at which the text is cut. -/
theorem not_mem_of_mem_splitOn {c : CodePoint} {t : Text} : ∀ part ∈ splitOn c t, c ∉ part := by
  induction t using splitOn_induction c with
  | whole t h => simp [splitOn_of_not_mem h, h]
  | cut s rest h ih =>
      rw [splitOn_append h]
      intro part hpart
      rcases List.mem_cons.mp hpart with rfl | hpart
      · exact h
      · exact ih part hpart

/-- Every part stands in the text. -/
theorem isInfix_of_mem_splitOn {c : CodePoint} {t part : Text} (h : part ∈ splitOn c t) :
    part <:+: t := by
  induction t using splitOn_induction c with
  | whole t hnot =>
      obtain rfl : part = t := by simpa [splitOn_of_not_mem hnot] using h
      exact List.infix_rfl
  | cut s rest hnot ih =>
      rw [splitOn_append hnot] at h
      rcases List.mem_cons.mp h with rfl | hrest
      · exact (List.prefix_append part (c :: rest)).isInfix
      · exact (ih hrest).trans ⟨s ++ [c], [], by simp⟩

theorem join_cons {sep t : Text} {parts : List Text} (h : parts ≠ []) :
    join sep (t :: parts) = t ++ sep ++ join sep parts := by
  cases parts with
  | nil => exact absurd rfl h
  | cons u parts => rfl

/-- Joining the parts of a text gives the text. -/
theorem join_splitOn (c : CodePoint) (t : Text) : join [c] (splitOn c t) = t := by
  induction t using splitOn_induction c with
  | whole t h => rw [splitOn_of_not_mem h, join]
  | cut s rest h ih =>
      rw [splitOn_append h, join_cons (splitOn_ne_nil c rest), ih, List.append_assoc,
        List.singleton_append]

/-- The parts behind some cut are those of the text behind it. -/
theorem splitOn_eq_append {c : CodePoint} {t : Text} {front back : List Text}
    (h : splitOn c t = front ++ back) (hback : back ≠ []) :
    ∃ v, splitOn c v = back ∧ (v = t ∨ ∃ u, t = u ++ c :: v) := by
  induction front generalizing t with
  | nil => exact ⟨t, h, Or.inl rfl⟩
  | cons part front ih =>
      rcases splitOn_cases c t with ⟨-, hsplit⟩ | ⟨s, rest, rfl, hnot, hsplit⟩
      · -- A text without cuts has one part, so nothing would stand behind it.
        rw [hsplit] at h
        exact absurd h (by simp [hback])
      · rw [hsplit, List.cons_append] at h
        obtain ⟨-, hrest⟩ := List.cons.inj h
        obtain ⟨v, hv, rfl | ⟨u, rfl⟩⟩ := ih hrest
        · exact ⟨v, hv, Or.inr ⟨s, rfl⟩⟩
        · exact ⟨v, hv, Or.inr ⟨s ++ c :: u, by simp⟩⟩

theorem splitOn_append_self (c : CodePoint) (s t : Text) :
    splitOn c (s ++ c :: t) = splitOn c s ++ splitOn c t := by
  induction s using splitOn_induction c with
  | whole s h => rw [splitOn_append h, splitOn_of_not_mem h, List.singleton_append]
  | cut s rest h ih =>
      rw [List.append_assoc, List.cons_append, splitOn_append h, ih, splitOn_append h,
        List.cons_append]

/-! ### Standing in a text -/

theorem contains_iff {part t : Text} : contains part t = true ↔ part <:+: t := by
  induction t with
  | nil => simp [contains]
  | cons c t ih =>
      rw [contains, Bool.or_eq_true, List.isPrefixOf_iff_prefix, ih, List.infix_cons_iff]

theorem suffix_of_dropStart? {start t rest : Text} (h : dropStart? start t = some rest) :
    rest <:+ t := ⟨start, (eq_append_of_dropStart? h).symm⟩

theorem before_isPrefix (c : CodePoint) (t : Text) : before c t <+: t := List.takeWhile_prefix _

/-! ### White space -/

/-- A text of white space. -/
def Blank (t : Text) : Prop := ∀ c ∈ t, c.isBlank = true

theorem blank_takeWhile (t : Text) : Blank (t.takeWhile CodePoint.isBlank) :=
  fun c hc => List.all_eq_true.mp List.all_takeWhile c hc

theorem trimStart_append {front : Text} (hfront : Blank front) {c : CodePoint}
    (hc : c.isBlank = false) (t : Text) : trimStart (front ++ c :: t) = c :: t := by
  rw [trimStart, List.dropWhile_append_of_pos hfront, List.dropWhile_cons_of_neg (by simp [hc])]

theorem append_trimStart (t : Text) : t.takeWhile CodePoint.isBlank ++ t.trimStart = t :=
  List.takeWhile_append_dropWhile

/-- Around a trimmed text there was white space. -/
theorem exists_eq_trim (t : Text) :
    ∃ front back, t = front ++ (t.trim ++ back) ∧ Blank front ∧ Blank back := by
  have hback : ∀ s : Text, s.trimEnd ++ (s.reverse.takeWhile CodePoint.isBlank).reverse = s := by
    intro s
    rw [trimEnd, dropEndWhile, ← List.reverse_append, List.takeWhile_append_dropWhile,
      List.reverse_reverse]
  refine ⟨t.takeWhile CodePoint.isBlank, (t.trimStart.reverse.takeWhile CodePoint.isBlank).reverse,
    ?_, blank_takeWhile t, fun c hc => blank_takeWhile _ c (List.mem_reverse.mp hc)⟩
  rw [trim, hback, append_trimStart]

/-- A text without the white space around it stands in the text. -/
theorem trim_isInfix (t : Text) : t.trim <:+: t := by
  obtain ⟨front, back, ht, -, -⟩ := exists_eq_trim t
  exact ⟨front, back, by rw [List.append_assoc, ← ht]⟩

/-- Behind the longest start that passes a test stands what fails it, if anything. -/
theorem exists_eq_takeWhile_append {p : CodePoint → Bool} {t : Text}
    (h : (t.takeWhile p).length < t.length) :
    ∃ c rest, t = t.takeWhile p ++ c :: rest ∧ p c = false := by
  have hsplit := List.takeWhile_append_dropWhile (p := p) (l := t)
  have hhead := List.head?_dropWhile_not p t
  cases hdrop : t.dropWhile p with
  | nil =>
      rw [hdrop, List.append_nil] at hsplit
      exact absurd h (by rw [hsplit]; exact Nat.lt_irrefl _)
  | cons c rest =>
      rw [hdrop] at hsplit hhead
      exact ⟨c, rest, hsplit.symm, hhead⟩

/-! ### Lines -/

/-- What can stand between two line feeds and be read back: no line feed in it, and no carriage
return at its end. -/
structure IsLine (t : Text) : Prop where
  noFeed : lineFeed ∉ t
  noReturn : t.getLast? ≠ some carriageReturn

theorem IsLine.of_not_mem {t : Text} (hfeed : lineFeed ∉ t) (hreturn : carriageReturn ∉ t) :
    IsLine t :=
  ⟨hfeed, fun h => hreturn (List.mem_of_getLast? h)⟩

theorem lines_of_not_mem {t : Text} (h : lineFeed ∉ t) : lines t = [t] := by
  induction t with
  | nil => rfl
  | cons c t ih =>
      have hc : c ≠ lineFeed := fun hc => h (hc ▸ List.mem_cons_self)
      have ht : lineFeed ∉ t := fun hm => h (List.mem_cons_of_mem c hm)
      have hhead : t.head? ≠ some lineFeed := fun hh => ht (List.mem_of_head? hh)
      simp [lines, hc, hhead, ih ht]

/-- No line has a line feed in it. -/
theorem noFeed_of_mem_lines {t : Text} : ∀ line ∈ lines t, lineFeed ∉ line := by
  induction t with
  | nil => simp [lines]
  | cons c t ih =>
      intro line hline
      rw [lines] at hline
      split at hline
      · rcases List.mem_cons.mp hline with rfl | hline
        · simp
        · exact ih line hline
      · rename_i hc
        split at hline
        · exact ih line hline
        · cases hrest : lines t with
          | nil => exact absurd hrest (lines_ne_nil t)
          | cons first rest =>
              rw [hrest] at hline ih
              rcases List.mem_cons.mp hline with rfl | hline
              · rw [List.mem_cons]
                rintro (hfeed | hfeed)
                · exact hc hfeed.symm
                · exact ih first (by simp) hfeed
              · exact ih line (by simp [hline])

/-- **The lines of two texts with a line feed between them.**  The first text must not end with a
carriage return, which would be taken for a part of the ending. -/
theorem lines_append {t : Text} (h : t.getLast? ≠ some carriageReturn) (rest : Text) :
    lines (t ++ lineFeed :: rest) = lines t ++ lines rest := by
  induction t with
  | nil => simp [lines]
  | cons c t ih =>
      have hlast : t.getLast? ≠ some carriageReturn :=
        fun hl => h (by rw [List.getLast?_cons, hl]; rfl)
      -- A carriage return is not the last code point, so what stands behind it is the same.
      have hending : (c = carriageReturn ∧ (t ++ lineFeed :: rest).head? = some lineFeed)
          ↔ (c = carriageReturn ∧ t.head? = some lineFeed) := by
        refine and_congr_right fun hreturn => ?_
        cases t with
        | nil => exact absurd (by rw [hreturn]; rfl) h
        | cons d t => rfl
      simp only [List.cons_append, lines, hending, ih hlast]
      by_cases hfeed : c = lineFeed
      · rw [if_pos hfeed, if_pos hfeed, List.cons_append]
      rw [if_neg hfeed, if_neg hfeed]
      by_cases hboth : c = carriageReturn ∧ t.head? = some lineFeed
      · rw [if_pos hboth, if_pos hboth]
      · rw [if_neg hboth, if_neg hboth]
        cases hlines : lines t with
        | nil => exact absurd hlines (lines_ne_nil t)
        | cons line behind => rfl

/-- A line feed cuts off the line in front of it. -/
theorem lines_append_feed {t : Text} (h : IsLine t) (rest : Text) :
    lines (t ++ lineFeed :: rest) = t :: lines rest := by
  rw [lines_append h.noReturn, lines_of_not_mem h.noFeed, List.singleton_append]

/-- **Cutting a joined text gives its lines back.**  No lines at all join to the empty text, which
is one empty line. -/
theorem lines_join {ls : List Text} (hne : ls ≠ []) (hls : ∀ l ∈ ls, IsLine l) :
    lines (join [lineFeed] ls) = ls := by
  induction ls with
  | nil => exact absurd rfl hne
  | cons l ls ih =>
      cases ls with
      | nil => exact lines_of_not_mem (hls l (by simp)).noFeed
      | cons m ls =>
          have hrest := ih (by simp) fun x hx => hls x (List.mem_cons_of_mem l hx)
          rw [join, List.append_assoc, List.singleton_append,
            lines_append_feed (hls l (by simp)), hrest]

/-! ### Line endings -/

/-- Every carriage return of a text stands directly in front of a line feed. -/
def NoLoneReturn (t : Text) : Prop :=
  ∀ rest, carriageReturn :: rest <:+ t → rest.head? = some lineFeed

theorem noLoneReturn_nil : NoLoneReturn [] := fun rest h => absurd h (by simp)

theorem noLoneReturn_cons {c : CodePoint} {t : Text} :
    NoLoneReturn (c :: t) ↔ (c = carriageReturn → t.head? = some lineFeed) ∧ NoLoneReturn t := by
  constructor
  · intro h
    refine ⟨?_, fun rest hrest => h rest (List.suffix_cons_iff.mpr (Or.inr hrest))⟩
    rintro rfl
    exact h t List.suffix_rfl
  · rintro ⟨hfirst, ht⟩ rest hrest
    rcases List.suffix_cons_iff.mp hrest with heq | hrest
    · obtain ⟨hc, rfl⟩ := List.cons.inj heq
      exact hfirst hc.symm
    · exact ht rest hrest

instance decidableNoLoneReturn : (t : Text) → Decidable t.NoLoneReturn
  | [] => isTrue noLoneReturn_nil
  | _ :: t =>
    have := decidableNoLoneReturn t
    decidable_of_iff _ noLoneReturn_cons.symm

/-- **A text without lone carriage returns has the same lines when its endings are unified.** -/
theorem lines_unifyEndings {t : Text} (h : NoLoneReturn t) : lines t.unifyEndings = lines t := by
  induction t with
  | nil => rfl
  | cons c t ih =>
      obtain ⟨hfirst, ht⟩ := noLoneReturn_cons.mp h
      have hrest := ih ht
      by_cases hreturn : c = carriageReturn
      · -- The line feed behind it ends the line, with or without the carriage return.
        have hhead : t.head? = some lineFeed := hfirst hreturn
        subst hreturn
        rw [unifyEndings, if_pos rfl, if_pos hhead, hrest, lines, if_neg (by decide),
          if_pos ⟨rfl, hhead⟩]
      · rw [unifyEndings, if_neg hreturn, lines, lines, hrest]
        by_cases hfeed : c = lineFeed
        · rw [if_pos hfeed, if_pos hfeed]
        · rw [if_neg hfeed, if_neg hfeed, if_neg fun hboth => hreturn hboth.1,
            if_neg fun hboth => hreturn hboth.1]

end Text

end PatchReview
