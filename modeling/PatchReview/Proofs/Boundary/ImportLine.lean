/-
An import is found on every line that is written as one.

A written import has its parts in order: a keyword, a clause that says what is imported,
the word `from`, and the specifier in quotes; any code or comment may stand behind.  Two
things could keep the specifier from being found.  The line could be cut in front of its
second quote; but a comment mark in the specifier stands inside quotes, and a backslash at
its end only keeps the quote open longer.  Or something else could be found first; but the
first quote of the line is the one in front of the specifier, and a quoted text is found
behind a keyword only if nothing but white space stands between.
-/
import PatchReview.Proofs.Boundary.Comment

namespace PatchReview

namespace Import

open CodePoint (ofChar)
open Text (Blank)

/-- White space between two parts of a line. -/
structure Gap where
  text : Text
  blank : Blank text
  nonempty : text ≠ []

/-- A line that imports or exports names of a module. -/
structure FromLine where
  indentation : Text
  keyword : Text
  gap : Gap
  clause : Text
  gapBeforeFrom : Gap
  gapBehindFrom : Gap
  quote : CodePoint
  specifier : Text
  /-- What stands behind the specifier: the rest of the statement, comments, or anything else. -/
  tail : Text
  indented : Blank indentation
  isKeyword : keyword = "import" ∨ keyword = "export"
  clauseUnquoted : ∀ c ∈ clause, isQuote c = false
  clauseUncommented : ¬commentMark <:+: clause
  quoted : isPlainQuote quote = true
  specified : specifier ≠ []
  specifierUnquoted : Unquoted specifier

namespace FromLine

/-- What stands in front of the word `from`. -/
def front (w : FromLine) : Text :=
  w.indentation ++ (w.keyword ++ (w.gap.text ++ (w.clause ++ w.gapBeforeFrom.text)))

/-- The line. -/
def line (w : FromLine) : Text :=
  w.front ++ ("from" ++ (w.gapBehindFrom.text ++ w.quote :: (w.specifier ++ w.quote :: w.tail)))

end FromLine

/-! ### The line is not cut in front of the second quote -/

/-- A front in which no quote is opened and no comment begins is code. -/
theorem code_append {front rest : Text}
    (h : ∀ u c v, front = u ++ c :: v →
      isQuote c = false ∧ ¬(c = ofChar '/' ∧ (v ++ rest).head? = some (ofChar '/'))) :
    code none (front ++ rest) = front ++ code none rest := by
  induction front with
  | nil => rfl
  | cons c front ih =>
      obtain ⟨hquote, hmark⟩ := h [] c front rfl
      rw [List.cons_append, code_plain (by simp [hquote]) hmark, List.cons_append,
        ih fun u d v hfront => h (c :: u) d v (by rw [hfront, List.cons_append])]

theorem code_append_of_slashless {front : Text}
    (h : ∀ c ∈ front, isQuote c = false ∧ c ≠ ofChar '/') (rest : Text) :
    code none (front ++ rest) = front ++ code none rest := by
  refine code_append fun u c v hfront => ?_
  obtain ⟨hquote, hslash⟩ := h c (by rw [hfront]; simp)
  exact ⟨hquote, fun hmark => hslash hmark.1⟩

theorem code_append_of_uncommented {front rest : Text} (hquotes : ∀ c ∈ front, isQuote c = false)
    (hmark : ¬commentMark <:+: front) (hrest : rest.head? ≠ some (ofChar '/')) :
    code none (front ++ rest) = front ++ code none rest := by
  refine code_append fun u c v hfront => ⟨hquotes c (by rw [hfront]; simp), ?_⟩
  rintro ⟨rfl, hhead⟩
  cases v with
  | nil => exact hrest hhead
  | cons d v =>
      obtain rfl : d = ofChar '/' := Option.some.inj hhead
      exact hmark ⟨u, v, by rw [hfront]; simp [commentMark, Text.ofString]⟩

/-- Inside quotes nothing is cut before the quote is closed, and it is not closed too early. -/
theorem code_closing {q : CodePoint} (hq : q ≠ ofChar '\\') (tail : Text) :
    ∀ s : Text, q ∉ s → ∃ behind, code (some q) (s ++ q :: tail) = s ++ q :: behind
  | [], _ => ⟨code none tail, by rw [List.nil_append, code_quoted hq, if_pos rfl, List.nil_append]⟩
  | c :: s, h => by
      rw [List.mem_cons, not_or] at h
      by_cases hc : c = ofChar '\\'
      · subst hc
        cases s with
        | nil => exact ⟨code (some q) tail, rfl⟩
        | cons d s =>
            obtain ⟨behind, hbehind⟩ := code_closing hq tail s fun hmem => h.2 (by simp [hmem])
            exact ⟨behind, by simp only [List.cons_append, code_escaped, hbehind]⟩
      · obtain ⟨behind, hbehind⟩ := code_closing hq tail s h.2
        refine ⟨behind, ?_⟩
        rw [List.cons_append, code_quoted hc, if_neg fun heq => h.1 heq.symm, hbehind,
          List.cons_append]

/-! ### Nothing else is found in front of the specifier -/

section Search

variable {keyword specifier front gap behind : Text}

/-- The text in front of the first quote is the same however the text is cut there. -/
theorem unquoted_front_inj {s s' rest rest' : Text} {q q' : CodePoint} (hs : Unquoted s)
    (hs' : Unquoted s') (hq : isPlainQuote q = true) (hq' : isPlainQuote q' = true)
    (h : s ++ q :: rest = s' ++ q' :: rest') : s = s' := by
  rw [← hs.takeWhile_eq hq rest, h, hs'.takeWhile_eq hq' rest']

/-- In front of a keyword with a specifier behind it no keyword has one: the later keyword would
stand in the white space. -/
theorem quotedAfter_early {m : CodePoint} (hm : m.isBlank = false)
    (hkeyword : Unquoted (keyword ++ [m])) (hfront : Unquoted front) (hsome : front ≠ [])
    (hnames : Names specifier behind) :
    quotedAfter (keyword ++ [m]) (front ++ (keyword ++ [m] ++ behind)) = none := by
  refine Option.eq_none_iff_forall_not_mem.mpr fun found hfound => ?_
  obtain ⟨behind', hbehind', hnames'⟩ := quotedAfter_eq_some_iff.mp hfound
  cases hnames with
  | @quoted gap opening closing rest hgap _ hopening _ _ _ =>
      cases hnames' with
      | @quoted gap' opening' closing' rest' hgap' _ hopening' _ _ _ =>
          have hline :
              (front ++ (keyword ++ [m] ++ gap)) ++ opening :: (specifier ++ closing :: rest)
                = (keyword ++ [m] ++ gap') ++ opening' :: (found ++ closing' :: rest') := by
            simpa using hbehind'
          have hsame : front ++ (keyword ++ [m] ++ gap) = keyword ++ [m] ++ gap' :=
            unquoted_front_inj (hfront.append (hkeyword.append (unquoted_of_blank hgap)))
              (hkeyword.append (unquoted_of_blank hgap')) hopening hopening' hline
          have hlength : (m :: gap).length ≤ gap'.length := by
            have hcount := congrArg List.length hsame
            have hpos : 0 < front.length := List.length_pos_iff.mpr hsome
            simp only [List.length_append, List.length_cons, List.length_nil] at hcount ⊢
            omega
          have hbehind : m :: gap <:+ keyword ++ [m] ++ gap' :=
            ⟨front ++ keyword, by rw [← hsame]; simp⟩
          have hsuffix : m :: gap <:+ gap' :=
            List.suffix_of_suffix_length_le hbehind (List.suffix_append _ gap') hlength
          exact absurd (hgap' m (hsuffix.subset (by simp))) (by simp [hm])

theorem search_of_names (hnames : Names specifier behind) :
    search keyword false (keyword ++ behind) = some specifier := by
  have hquoted : quotedAfter keyword (keyword ++ behind) = some specifier :=
    quotedAfter_of_names hnames
  cases hline : keyword ++ behind with
  | nil =>
      rw [hline, quotedAfter_nil] at hquoted
      exact absurd hquoted (by simp)
  | cons c t =>
      rw [hline] at hquoted
      rw [search_cons, hquoted]
      rfl

/-- **The search finds the specifier in front of which the first quote stands**, if a word can begin
at its keyword. -/
theorem search_front {m : CodePoint} (hm : m.isBlank = false) (hkeyword : Unquoted (keyword ++ [m]))
    (hfront : Unquoted front) (hword : inWordAfter false front = false)
    (hnames : Names specifier behind) :
    search (keyword ++ [m]) false (front ++ (keyword ++ [m] ++ behind)) = some specifier := by
  have hnone : ∀ v, v ≠ [] → v <:+ front →
      quotedAfter (keyword ++ [m]) (v ++ (keyword ++ [m] ++ behind)) = none :=
    fun v hv hsuffix =>
      quotedAfter_early hm hkeyword (fun c hc => hfront c (hsuffix.subset hc)) hv hnames
  rw [search_append hnone, hword, search_of_names hnames]

end Search

/-! ### Written imports -/

theorem inWordAfter_gap (inWord : Bool) (gap : Gap) : inWordAfter inWord gap.text = false := by
  obtain ⟨text, hblank, hsome⟩ := gap
  cases text with
  | nil => exact absurd rfl hsome
  | cons c t =>
      have hword : c.isWord = false := CodePoint.isWord_of_isBlank (hblank c (by simp))
      show inWordAfter c.isWord t = false
      rw [hword]
      exact inWordAfter_of_blank fun d hd => hblank d (by simp [hd])

/-- White space opens no quote and begins no comment. -/
theorem slashless_of_blank {t : Text} (h : Blank t) :
    ∀ c ∈ t, isQuote c = false ∧ c ≠ ofChar '/' := by
  intro c hc
  refine ⟨isQuote_eq_false_of_isBlank (h c hc), ?_⟩
  rintro rfl
  exact absurd (h _ hc) (by decide)

namespace FromLine

variable (w : FromLine)

theorem slashless_keyword : ∀ c ∈ w.keyword, isQuote c = false ∧ c ≠ ofChar '/' := by
  rcases w.isKeyword with h | h
  · rw [h]
    decide
  · rw [h]
    decide

theorem unquoted_front : Unquoted w.front := by
  have hkeyword : Unquoted w.keyword :=
    fun c hc => isPlainQuote_eq_false (w.slashless_keyword c hc).1
  have hclause : Unquoted w.clause := fun c hc => isPlainQuote_eq_false (w.clauseUnquoted c hc)
  have hbehind : Unquoted (w.clause ++ w.gapBeforeFrom.text) :=
    hclause.append (unquoted_of_blank w.gapBeforeFrom.blank)
  exact (unquoted_of_blank w.indented).append
    (hkeyword.append ((unquoted_of_blank w.gap.blank).append hbehind))

/-- The code of a written import ends behind its specifier. -/
theorem exists_code_line :
    ∃ behind, code none w.line = w.front
      ++ ("from" ++ (w.gapBehindFrom.text ++ w.quote :: (w.specifier ++ w.quote :: behind))) := by
  have hquote : w.quote ≠ ofChar '\\' := fun heq => absurd w.quoted (by rw [heq]; decide)
  have hfresh : w.quote ∉ w.specifier := fun hmem =>
    absurd w.quoted (by simp [w.specifierUnquoted _ hmem])
  obtain ⟨behind, hbehind⟩ := code_closing hquote w.tail w.specifier hfresh
  have hclause : ∀ rest : Text, (w.gapBeforeFrom.text ++ rest).head? ≠ some (ofChar '/') := by
    intro rest hhead
    obtain ⟨c, t, htext⟩ := List.exists_cons_of_ne_nil w.gapBeforeFrom.nonempty
    rw [htext] at hhead
    exact (slashless_of_blank w.gapBeforeFrom.blank c (by simp [htext])).2 (Option.some.inj hhead)
  refine ⟨behind, ?_⟩
  simp only [line, front, List.append_assoc]
  rw [code_append_of_slashless (slashless_of_blank w.indented),
    code_append_of_slashless w.slashless_keyword,
    code_append_of_slashless (slashless_of_blank w.gap.blank),
    code_append_of_uncommented w.clauseUnquoted w.clauseUncommented (hclause _),
    code_append_of_slashless (slashless_of_blank w.gapBeforeFrom.blank),
    code_append_of_slashless (by decide),
    code_append_of_slashless (slashless_of_blank w.gapBehindFrom.blank),
    code_opening (isQuote_of_isPlainQuote w.quoted), hbehind]

end FromLine

/-- **Every written import is found.**  The specifier may have comment marks, backquotes and
backslashes in it, and anything may stand behind it. -/
theorem specifier?_fromLine (w : FromLine) : specifier? w.line = some w.specifier := by
  obtain ⟨behind, hcode⟩ := w.exists_code_line
  have hword : inWordAfter false w.front = false := by
    simp only [FromLine.front, inWordAfter_append, inWordAfter_gap]
  have hnames : Names w.specifier
      (w.gapBehindFrom.text ++ w.quote :: (w.specifier ++ w.quote :: behind)) :=
    .quoted behind w.gapBehindFrom.blank w.gapBehindFrom.nonempty w.quoted w.quoted w.specified
      w.specifierUnquoted
  have hfrom : ("from" : Text) = "fro" ++ [ofChar 'm'] := rfl
  have hfound : search "from" false (code none w.line) = some w.specifier := by
    rw [hcode, hfrom]
    exact search_front (by decide) (by unfold Unquoted; decide) w.unquoted_front hword hnames
  rw [specifier?_eq, hfound, Option.some_or]

/-- A clause that ends in the word `from`, a specifier with a comment mark and a backslash at its
end, and a comment with a quote behind it. -/
theorem specifier?_fromLine_escaped :
    specifier? "\texport  * as from from \"x//y\\\"; // don't"
      = some ("x//y\\" : Text) := by
  let space : Gap := ⟨" ", by unfold Blank; decide, by decide⟩
  let w : FromLine :=
    { indentation := "\t", keyword := "export", gap := ⟨"  ", by unfold Blank; decide, by decide⟩
      clause := "* as from", gapBeforeFrom := space, gapBehindFrom := space, quote := '"'
      specifier := "x//y\\", tail := "; // don't", indented := by unfold Blank; decide
      isKeyword := Or.inr rfl, clauseUnquoted := by decide
      clauseUncommented := by rw [← Text.contains_iff]; decide
      quoted := by decide, specified := by decide, specifierUnquoted := by unfold Unquoted; decide }
  have hline : w.line = "\texport  * as from from \"x//y\\\"; // don't" := by decide +kernel
  rw [← hline, specifier?_fromLine w]

end Import

end PatchReview
