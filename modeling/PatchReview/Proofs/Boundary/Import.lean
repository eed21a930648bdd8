/-
What a line imports stands in quotes in its code.

The search for an import goes through the code of a line and stops where a keyword starts
a word and a module is named behind it: white space, then a specifier in quotes.  A match
ends with a quote, so what has no quote in it may be put behind a text or taken away
without a change of what is found.  That is why neither the white space around the code
nor a slash in front of a comment matters.  Of what stands in front of a text the search
keeps one thing only, whether a word can begin there.
-/
import PatchReview.Boundary.Import
import PatchReview.Proofs.Text

namespace PatchReview

/-- A number that is looked up in a table lies in one of its ranges. -/
theorem Ranges.exists_of_holds {ranges : Ranges} {n : Nat} (h : ranges.holds n = true) :
    ∃ r ∈ ranges, r.1 ≤ n ∧ n ≤ r.2 := by
  fun_induction holds n ranges with
  | case1 => exact absurd h (by simp)
  | case2 => exact absurd h (by simp)
  | case3 low high rest hlow ih =>
      rcases Bool.or_eq_true_iff.mp h with hhigh | hrest
      · exact ⟨(low, high), by simp, Nat.le_of_not_lt hlow, by simpa using hhigh⟩
      · obtain ⟨r, hr, hbounds⟩ := ih hrest
        exact ⟨r, by simp [hr], hbounds⟩

/-- White space is no part of a word. -/
theorem CodePoint.isWord_of_isBlank {c : CodePoint} (h : c.isBlank = true) : c.isWord = false := by
  have hall : ∀ r ∈ blanks, ∀ n ∈ List.range' r.1 (r.2 + 1 - r.1), wordRanges.holds n = false := by
    decide +kernel
  obtain ⟨r, hr, hlow, hhigh⟩ := Ranges.exists_of_holds h
  exact hall r hr c.toNat (List.mem_range'_1.mpr ⟨hlow, by omega⟩)

namespace Import

open Text (Blank)

/-- A text in which no specifier begins or ends. -/
def Unquoted (t : Text) : Prop := ∀ c ∈ t, isPlainQuote c = false

/-- How a module is named behind a keyword: in quotes, of which the second one need not be of the
kind of the first. -/
inductive Names (specifier : Text) : Text → Prop
  | quoted {gap : Text} {opening closing : CodePoint} (rest : Text) (hgap : Blank gap)
      (hsome : gap ≠ []) (hopening : isPlainQuote opening = true)
      (hclosing : isPlainQuote closing = true) (hspecifier : specifier ≠ [])
      (hunquoted : Unquoted specifier) :
      Names specifier (gap ++ opening :: (specifier ++ closing :: rest))

variable {keyword specifier t : Text}

theorem isQuote_of_isPlainQuote {c : CodePoint} (h : isPlainQuote c = true) : isQuote c = true :=
  Bool.or_eq_true_iff.mpr (Or.inl h)

theorem isPlainQuote_eq_false {c : CodePoint} (h : isQuote c = false) : isPlainQuote c = false :=
  (Bool.or_eq_false_iff.mp h).1

/-- A quote is no white space. -/
theorem isBlank_of_isQuote {c : CodePoint} (h : isQuote c = true) : c.isBlank = false := by
  simp only [isQuote, Bool.or_eq_true, beq_iff_eq] at h
  rcases h with (rfl | rfl) | rfl
  · decide
  · decide
  · decide

theorem isQuote_eq_false_of_isBlank {c : CodePoint} (h : c.isBlank = true) : isQuote c = false := by
  cases hquote : isQuote c with
  | false => rfl
  | true => exact absurd h (by simp [isBlank_of_isQuote hquote])

theorem unquoted_of_blank (h : Blank t) : Unquoted t :=
  fun c hc => isPlainQuote_eq_false (isQuote_eq_false_of_isBlank (h c hc))

theorem Unquoted.append {u : Text} (ht : Unquoted t) (hu : Unquoted u) : Unquoted (t ++ u) :=
  fun c hc => (List.mem_append.mp hc).elim (ht c) (hu c)

/-- Reading up to a quote gives what has no quote in it. -/
theorem Unquoted.takeWhile_eq (h : Unquoted t) {q : CodePoint} (hq : isPlainQuote q = true)
    (rest : Text) : (t ++ q :: rest).takeWhile (fun c => !isPlainQuote c) = t := by
  rw [List.takeWhile_append_of_pos (fun c hc => by simp [h c hc]),
    List.takeWhile_cons_of_neg (by simp [hq]), List.append_nil]

/-- A text that ends behind a quote ends so with anything unquoted taken away behind it. -/
theorem Unquoted.exists_eq_append {u front rest : Text} (hu : Unquoted u) {q : CodePoint}
    (hq : isPlainQuote q = true) (h : t ++ u = front ++ q :: rest) :
    ∃ more, t = front ++ q :: more := by
  have hnot : q ∉ u := fun hmem => absurd hq (by simp [hu q hmem])
  rcases List.append_eq_append_iff.mp h with ⟨more, -, hrest⟩ | ⟨more, hfront, hrest⟩
  · exact absurd (by rw [hrest]; simp) hnot
  · cases more with
    | nil => exact absurd (by rw [← List.nil_append u, ← hrest]; simp) hnot
    | cons c more =>
        obtain ⟨rfl, -⟩ := List.cons.inj hrest
        exact ⟨more, hfront⟩

/-! ### A keyword and a quoted text behind it -/

theorem names_of_quotedAfter (h : quotedAfter keyword t = some specifier) :
    ∃ behind, t = keyword ++ behind ∧ Names specifier behind := by
  unfold quotedAfter at h
  cases hdrop : Text.dropStart? keyword t with
  | none => simp [hdrop] at h
  | some behind =>
      refine ⟨behind, Text.eq_append_of_dropStart? hdrop, ?_⟩
      simp only [hdrop] at h
      cases behind with
      | nil => simp at h
      | cons c behind =>
          dsimp only at h
          split at h
          · exact absurd h (by simp)
          rename_i hfirst
          have hblank : c.isBlank = true := by simpa using hfirst
          cases htrim : Text.trimStart (c :: behind) with
          | nil => simp [htrim] at h
          | cons opening quoted =>
              simp only [htrim] at h
              split at h
              · rename_i hok
                simp only [Bool.and_eq_true, Bool.not_eq_true', List.isEmpty_eq_false_iff,
                  decide_eq_true_eq] at hok
                obtain ⟨⟨hopening, hspecifier⟩, hshorter⟩ := hok
                obtain ⟨closing, rest, hquoted, hclosing⟩ :=
                  Text.exists_eq_takeWhile_append hshorter
                have hunquoted : Unquoted (quoted.takeWhile fun c => !isPlainQuote c) :=
                  fun c hc => by simpa using List.all_eq_true.mp List.all_takeWhile c hc
                have hline := Text.append_trimStart (c :: behind)
                have hsome : (c :: behind).takeWhile CodePoint.isBlank ≠ [] := by
                  simp [hblank]
                rw [Option.some.inj h] at hquoted hunquoted hspecifier
                rw [htrim, hquoted] at hline
                rw [← hline]
                exact .quoted rest (Text.blank_takeWhile _) hsome hopening (by simpa using hclosing)
                  hspecifier hunquoted
              · exact absurd h (by simp)

theorem quotedAfter_of_names {behind : Text} (h : Names specifier behind) :
    quotedAfter keyword (keyword ++ behind) = some specifier := by
  cases h with
  | @quoted gap opening closing rest hgap hsome hopening hclosing hspecifier hunquoted =>
      cases gap with
      | nil => exact absurd rfl hsome
      | cons c gap =>
          have htrim := Text.trimStart_append hgap
            (isBlank_of_isQuote (isQuote_of_isPlainQuote hopening)) (specifier ++ closing :: rest)
          have hread := hunquoted.takeWhile_eq hclosing rest
          simp only [List.cons_append] at htrim
          simp [quotedAfter, hgap c, htrim, hread, hopening, hspecifier]

theorem quotedAfter_eq_some_iff :
    quotedAfter keyword t = some specifier
      ↔ ∃ behind, t = keyword ++ behind ∧ Names specifier behind := by
  constructor
  · exact names_of_quotedAfter
  · rintro ⟨behind, rfl, h⟩
    exact quotedAfter_of_names h

/-- What has no quote in it does not matter behind a text. -/
theorem quotedAfter_append_of_unquoted {u : Text} (hu : Unquoted u) (t : Text) :
    quotedAfter keyword (t ++ u) = quotedAfter keyword t := by
  refine Option.ext fun specifier => ?_
  rw [quotedAfter_eq_some_iff, quotedAfter_eq_some_iff]
  constructor
  · rintro ⟨behind, hbehind, hnames⟩
    cases hnames with
    | @quoted gap opening closing rest hgap hsome hopening hclosing hspecifier hunquoted =>
        have hline : t ++ u = (keyword ++ (gap ++ opening :: specifier)) ++ closing :: rest := by
          simpa using hbehind
        obtain ⟨more, hmore⟩ := hu.exists_eq_append hclosing hline
        refine ⟨gap ++ opening :: (specifier ++ closing :: more), by simp [hmore], ?_⟩
        exact .quoted more hgap hsome hopening hclosing hspecifier hunquoted
  · rintro ⟨behind, rfl, hnames⟩
    cases hnames with
    | @quoted gap opening closing rest hgap hsome hopening hclosing hspecifier hunquoted =>
        refine ⟨gap ++ opening :: (specifier ++ closing :: (rest ++ u)), by simp, ?_⟩
        exact .quoted (rest ++ u) hgap hsome hopening hclosing hspecifier hunquoted

theorem quotedAfter_nil (keyword : Text) : quotedAfter keyword [] = none := by
  cases keyword with
  | nil | cons => rfl

/-! ### The search -/

theorem search_cons {inWord : Bool} {c : CodePoint} :
    search keyword inWord (c :: t)
      = (if inWord then none else quotedAfter keyword (c :: t)).or (search keyword c.isWord t) := by
  rw [search]
  split
  · rename_i h
    rw [h, Option.some_or]
  · rename_i h
    rw [h, Option.none_or]

theorem search_of_unquoted {inWord : Bool} (ht : Unquoted t) : search keyword inWord t = none := by
  induction t generalizing inWord with
  | nil => rfl
  | cons c t ih =>
      have hnone : quotedAfter keyword (c :: t) = none :=
        (quotedAfter_append_of_unquoted ht []).trans (quotedAfter_nil keyword)
      rw [search_cons, hnone, ih fun d hd => ht d (by simp [hd]), ite_self, Option.none_or]

/-- Nothing is found in what has no quote in it, and no less in front of it. -/
theorem search_append_of_unquoted {inWord : Bool} {u : Text} (hu : Unquoted u) (t : Text) :
    search keyword inWord (t ++ u) = search keyword inWord t := by
  induction t generalizing inWord with
  | nil => exact search_of_unquoted hu
  | cons c t ih =>
      rw [List.cons_append, search_cons, ih, ← List.cons_append, quotedAfter_append_of_unquoted hu,
        search_cons]

/-- Whether a word code point stands before what follows a text. -/
def inWordAfter (inWord : Bool) : Text → Bool
  | [] => inWord
  | c :: t => inWordAfter c.isWord t

theorem inWordAfter_append (inWord : Bool) (s t : Text) :
    inWordAfter inWord (s ++ t) = inWordAfter (inWordAfter inWord s) t := by
  induction s generalizing inWord with
  | nil => rfl
  | cons c s ih => exact ih c.isWord

theorem inWordAfter_of_blank (h : Blank t) : inWordAfter false t = false := by
  induction t with
  | nil => rfl
  | cons c t ih =>
      rw [inWordAfter, CodePoint.isWord_of_isBlank (h c (by simp))]
      exact ih fun d hd => h d (by simp [hd])

/-- The search passes a front in which no keyword has a specifier behind it. -/
theorem search_append {inWord : Bool} {front : Text}
    (h : ∀ v, v ≠ [] → v <:+ front → quotedAfter keyword (v ++ t) = none) :
    search keyword inWord (front ++ t) = search keyword (inWordAfter inWord front) t := by
  induction front generalizing inWord with
  | nil => rfl
  | cons c front ih =>
      have hhere := h (c :: front) (by simp) List.suffix_rfl
      rw [List.cons_append] at hhere ⊢
      rw [search_cons, hhere, ite_self, Option.none_or, inWordAfter]
      exact ih fun v hv hsuffix => h v hv (hsuffix.trans (List.suffix_cons c front))

/-- What is found is found at some place. -/
theorem exists_of_search {inWord : Bool} (h : search keyword inWord t = some specifier) :
    ∃ front behind, t = front ++ (keyword ++ behind) ∧ Names specifier behind := by
  induction t generalizing inWord with
  | nil => exact absurd h (by simp [search])
  | cons c t ih =>
      rw [search_cons, Option.or_eq_some_iff] at h
      rcases h with hhere | ⟨-, hlater⟩
      · have hquoted : quotedAfter keyword (c :: t) = some specifier := by
          cases inWord with
          | false => exact hhere
          | true => exact absurd hhere (by simp)
        obtain ⟨behind, hbehind, hnames⟩ := quotedAfter_eq_some_iff.mp hquoted
        exact ⟨[], behind, hbehind, hnames⟩
      · obtain ⟨front, behind, rfl, hnames⟩ := ih hlater
        exact ⟨c :: front, behind, rfl, hnames⟩

/-! ### Imports -/

/-- The code of a line is its beginning. -/
theorem code_isPrefix (quote : Option CodePoint) (t : Text) : code quote t <+: t := by
  fun_induction code quote t with
  | case1 => exact List.nil_prefix
  | case2 => exact List.prefix_refl _
  | case3 q d t ih =>
      exact (List.prefix_cons_inj _).mpr ((List.prefix_cons_inj d).mpr ih)
  | case4 c t q hc ih => exact (List.prefix_cons_inj c).mpr ih
  | case5 c t hquote ih => exact (List.prefix_cons_inj c).mpr ih
  | case6 => exact List.nil_prefix
  | case7 c t hquote hcomment ih => exact (List.prefix_cons_inj c).mpr ih

theorem quotedAfter_of_blank {c : CodePoint} (hc : c.isBlank = true)
    (hkeyword : ∃ a ∈ keyword.head?, a.isBlank = false) : quotedAfter keyword (c :: t) = none := by
  obtain ⟨a, ha, hword⟩ := hkeyword
  cases keyword with
  | nil => exact absurd ha (by simp)
  | cons b keyword =>
      obtain rfl := Option.some.inj ha
      have hne : b ≠ c := fun hbc => absurd hc (by rw [← hbc, hword]; simp)
      rw [quotedAfter, Text.dropStart?, if_neg hne]

/-- White space at the two ends does not matter, since no keyword starts with any. -/
theorem search_trim (hkeyword : ∃ a ∈ keyword.head?, a.isBlank = false) (t : Text) :
    search keyword false t.trim = search keyword false t := by
  obtain ⟨front, back, ht, hfront, hback⟩ := Text.exists_eq_trim t
  have hnone : ∀ v, v ≠ [] → v <:+ front → quotedAfter keyword (v ++ (t.trim ++ back)) = none := by
    intro v hv hsuffix
    cases v with
    | nil => exact absurd rfl hv
    | cons c v => exact quotedAfter_of_blank (hfront c (hsuffix.subset (by simp))) hkeyword
  calc search keyword false t.trim
      = search keyword false (t.trim ++ back) :=
        (search_append_of_unquoted (unquoted_of_blank hback) _).symm
    _ = search keyword (inWordAfter false front) (t.trim ++ back) := by
        rw [inWordAfter_of_blank hfront]
    _ = search keyword false t := by
        rw [← search_append hnone, ← ht]

/-- What a line imports depends on its code, and not on the white space around that. -/
theorem specifier?_eq (line : Text) :
    specifier? line
      = (search "from" false (code none line)).or (search "import" false (code none line)) := by
  rw [specifier?, search_trim (by decide), search_trim (by decide)]

/-- White space imports nothing. -/
theorem specifier?_of_blank {line : Text} (h : Blank line) : specifier? line = none := by
  have hcode : Unquoted (code none line) :=
    fun c hc => unquoted_of_blank h c ((code_isPrefix none line).subset hc)
  rw [specifier?_eq, search_of_unquoted hcode, search_of_unquoted hcode, Option.none_or]

/-- **A specifier stands in quotes in the code of its line**, and has no quote in it. -/
theorem quoted_of_specifier? {line : Text} (h : specifier? line = some specifier) :
    specifier ≠ [] ∧ Unquoted specifier ∧
      ∃ opening closing, isPlainQuote opening = true ∧ isPlainQuote closing = true ∧
        opening :: (specifier ++ [closing]) <:+: code none line := by
  have hfound : ∃ keyword, search keyword false (code none line) = some specifier := by
    rw [specifier?_eq, Option.or_eq_some_iff] at h
    rcases h with h | ⟨-, h⟩
    · exact ⟨_, h⟩
    · exact ⟨_, h⟩
  obtain ⟨keyword, hkeyword⟩ := hfound
  obtain ⟨front, behind, hcode, hnames⟩ := exists_of_search hkeyword
  cases hnames with
  | @quoted gap opening closing rest hgap hsome hopening hclosing hspecifier hunquoted =>
      refine ⟨hspecifier, hunquoted, opening, closing, hopening, hclosing, ?_⟩
      exact ⟨front ++ keyword ++ gap, rest, by rw [hcode]; simp⟩

/-- **What a line imports stands in the line.** -/
theorem specifier?_isInfix {line specifier : Text} (h : specifier? line = some specifier) :
    specifier <:+: line := by
  obtain ⟨-, -, opening, closing, -, -, hquoted⟩ := quoted_of_specifier? h
  have hinner : specifier <:+: opening :: (specifier ++ [closing]) := ⟨[opening], [closing], rfl⟩
  exact (hinner.trans hquoted).trans (code_isPrefix none line).isInfix

end Import

end PatchReview
