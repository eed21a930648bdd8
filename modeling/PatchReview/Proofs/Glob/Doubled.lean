/-
Two stars twice at the end.

`dir/**` stands for all that is `dir` or below it: the final `**` takes the slash in front
of it along, so that the slash may be missing together with what stands behind it.  The
slash is looked for among the tokens, as the last one read.  Behind another `**/` the last
token is no slash but the folders of that `**/`, and those are taken along instead.  So a
doubled `**` at the end says no more than an empty segment in front of a final `**` would:
`P**/**` is read as `P/**`, and it stands for what is `P` or below it, slash and all.

The argument needs no more than that a pattern can be read up to a slash and then on from
there.  What stands in front of the slash is read as it would be alone, unless it ends in a
segment `**`, which waits for the slash.  A class is no obstacle: it ends where it is
closed, and nothing that has no closing bracket can close it.
-/
import PatchReview.Proofs.Glob.Class
import PatchReview.Proofs.Glob.Segment

namespace PatchReview

namespace Glob

open CodePoint (lineFeed)

/-! ### Classes in front of a text that closes none -/

namespace Class

variable {t s body : Text} {cls : Class} {used : Nat}

/-- The body of a class stands in front of a closing bracket. -/
theorem exists_eq_of_body? (h : body? t = some body) : ∃ rest, t = body ++ closing :: rest := by
  by_cases hfirst : t.head? = some closing
  · obtain ⟨t, rfl⟩ := List.head?_eq_some_iff.mp hfirst
    rw [body?_closing] at h
    obtain ⟨hmem, hbody⟩ := Option.ite_none_right_eq_some.mp h
    obtain ⟨rest, hrest⟩ := Text.exists_eq_before_append hmem
    exact ⟨rest, by rw [← Option.some.inj hbody, List.cons_append, ← hrest]⟩
  · rw [body?_of_head? hfirst] at h
    obtain ⟨hmem, hbody⟩ := Option.ite_none_right_eq_some.mp h
    obtain ⟨rest, hrest⟩ := Text.exists_eq_before_append hmem
    exact ⟨rest, by rw [← Option.some.inj hbody, ← hrest]⟩

section

variable (hs : closing ∉ s)

include hs

theorem body?_append_of_not_mem (t : Text) : body? (t ++ s) = body? t := by
  have hcut : ∀ first t : Text,
      (if closing ∈ t ++ s then some (first ++ Text.before closing (t ++ s)) else none)
        = if closing ∈ t then some (first ++ Text.before closing t) else none := by
    intro first t
    by_cases hmem : closing ∈ t
    · rw [if_pos (List.mem_append_left s hmem), if_pos hmem, Text.before_append_of_mem hmem]
    · rw [if_neg (by simp [hmem, hs]), if_neg hmem]
  cases t with
  | nil => rw [List.nil_append, body?_eq_none hs, body?_eq_none List.not_mem_nil]
  | cons c t =>
      by_cases hc : c = closing
      · subst hc
        rw [List.cons_append, body?_closing, body?_closing]
        exact hcut [closing] t
      · rw [body?_of_head? (by simpa using hc), body?_of_head? (by simpa using hc)]
        exact hcut [] (c :: t)

/-- A class is read alone as it is in front of a text that closes none. -/
theorem read?_append_of_not_mem (t : Text) : read? (t ++ s) = read? t := by
  cases t with
  | nil => rw [List.nil_append, read?_eq_none hs, read?_eq_none List.not_mem_nil]
  | cons c t =>
      have hbody : ∀ negated : Bool, body? ((c :: (t ++ s)).drop (if negated then 1 else 0))
          = body? ((c :: t).drop (if negated then 1 else 0)) := by
        intro negated
        cases negated with
        | false => exact body?_append_of_not_mem hs (c :: t)
        | true => exact body?_append_of_not_mem hs t
      rw [read?, read?, List.cons_append, List.head?_cons, List.head?_cons, hbody]

end

/-- A class ends within the text that it is read from. -/
theorem le_length_of_read? (h : read? t = some (cls, used)) : used ≤ t.length := by
  obtain ⟨body, hbody, h⟩ := Option.bind_eq_some_iff.mp h
  obtain ⟨ranges, -, h⟩ := Option.bind_eq_some_iff.mp h
  obtain ⟨rest, hrest⟩ := exists_eq_of_body? hbody
  have hused := congrArg Prod.snd (Option.some.inj h)
  have hlength := congrArg List.length hrest
  rw [List.length_drop, List.length_append, List.length_cons] at hlength
  simp only at hused
  omega

end Class

/-! ### Reading up to a slash -/

/-- What is read of a text when a slash follows does not depend on the slash: it does not end in a
segment `**`.  Its first segment counts as one if a segment starts there. -/
structure Settled (atSegment : Bool) (front : Text) : Prop where
  whole : atSegment = true → front ≠ anySegments
  segment : ¬slash :: anySegments <:+ front

section

variable {front rest s : Text} {atSegment : Bool}

theorem Settled.behind (h : Settled atSegment front) (hrest : rest <:+ front) :
    Settled false rest where
  whole := fun hfalse => absurd hfalse (by simp)
  segment := fun hsuffix => h.segment (hsuffix.trans hrest)

theorem Settled.behindSlash (h : Settled atSegment front) (hrest : slash :: rest <:+ front) :
    Settled true rest where
  whole := fun _ heq => h.segment (heq ▸ hrest)
  segment := fun hsuffix => h.segment (hsuffix.trans ((List.suffix_cons slash rest).trans hrest))

/-- Two stars that fill no segment, or the only one, are a span. -/
theorem tokensFrom_stars {read : List Token} {t : Text}
    (hfolders : ¬(atSegment = true ∧ t.head? = some slash))
    (hsubtree : ¬(atSegment = true ∧ t = [] ∧ read ≠ [])) :
    tokensFrom read atSegment ('*' :: CodePoint.ofChar '*' :: t)
      = tokensFrom (.span :: read) false t := by
  rw [tokensFrom, if_pos rfl, if_pos (by rfl)]
  simp only [List.drop_succ_cons, List.drop_zero]
  rw [if_neg hfolders, if_neg hsubtree]

/-- **A pattern is read up to a slash, and then on from there.** -/
theorem tokensFrom_append_slash (hs : Class.closing ∉ s) (read : List Token)
    (h : Settled atSegment front) :
    tokensFrom read atSegment (front ++ slash :: s)
      = tokensFrom (.literal slash :: (tokensFrom read atSegment front).reverse) true s := by
  have hbehind := closing_not_mem_slash hs
  -- The branches of the reader: the end of the front, `**/`, a final `**`, any other `**`, a star, a
  -- question mark, a class, a bracket that opens none, and what stands for itself.
  fun_induction tokensFrom read atSegment front with
  | case1 read atSegment => rw [List.reverse_reverse, List.nil_append, tokensFrom_slash]
  | case2 read atSegment t hstar rest hfolders ih =>
      obtain ⟨rest, rfl⟩ := List.head?_eq_some_iff.mp hstar
      obtain ⟨rfl, hslash⟩ := hfolders
      obtain ⟨more, rfl⟩ := List.head?_eq_some_iff.mp hslash
      have hmore : Settled true more := h.behindSlash ⟨anySegments, rfl⟩
      exact (tokensFrom_folders read (more ++ slash :: s)).trans (ih hmore)
  | case3 read atSegment t hstar rest hfolders hsubtree =>
      obtain ⟨more, rfl⟩ := List.head?_eq_some_iff.mp hstar
      have hnil : more = [] := hsubtree.2.1
      exact absurd (by rw [hnil]; rfl) (h.whole hsubtree.1)
  | case4 read atSegment t hstar rest hfolders hsubtree ih =>
      obtain ⟨more, rfl⟩ := List.head?_eq_some_iff.mp hstar
      have hnext : ¬(atSegment = true ∧ (more ++ slash :: s).head? = some slash) := by
        rintro ⟨hat, hslash⟩
        cases more with
        | nil => exact h.whole hat rfl
        | cons c more => exact hfolders ⟨hat, hslash⟩
      rw [List.cons_append, List.cons_append, tokensFrom_stars hnext fun hall => by simp at hall]
      exact ih (h.behind ⟨anySegments, rfl⟩)
  | case5 read atSegment t hstar ih =>
      have hnext : (t ++ slash :: s).head? ≠ some (CodePoint.ofChar '*') := by
        cases t with
        | nil =>
            rw [List.nil_append, List.head?_cons]
            decide
        | cons c t => exact hstar
      rw [List.cons_append, tokensFrom, if_pos rfl, if_neg hnext]
      exact ih (h.behind (List.suffix_cons _ t))
  | case6 read atSegment t hmark ih =>
      rw [List.cons_append, tokensFrom, if_neg hmark, if_pos rfl]
      exact ih (h.behind (List.suffix_cons _ t))
  | case7 read atSegment t cls used hread hstar hmark ih =>
      have happend := (Class.read?_append_of_not_mem hbehind t).trans hread
      rw [List.cons_append, tokensFrom, if_neg hstar, if_neg hmark, if_pos rfl, happend]
      simp only [List.drop_append_of_le_length (Class.le_length_of_read? hread)]
      exact ih (h.behind ((List.drop_suffix used t).trans (List.suffix_cons _ t)))
  | case8 read atSegment t hread hstar hmark ih =>
      have happend := (Class.read?_append_of_not_mem hbehind t).trans hread
      rw [List.cons_append, tokensFrom, if_neg hstar, if_neg hmark, if_pos rfl, happend]
      exact ih (h.behind (List.suffix_cons _ t))
  | case9 read atSegment c t hstar hmark hopen ih =>
      rw [List.cons_append, tokensFrom, if_neg hstar, if_neg hmark, if_neg hopen]
      refine ih ?_
      by_cases hc : c = slash
      · subst hc
        exact h.behindSlash List.suffix_rfl
      · rw [decide_eq_false hc]
        exact h.behind (List.suffix_cons c t)

end

/-- A place in a pattern at which a segment starts: its front is empty or ends with a slash. -/
def StartsSegment (front : Text) : Prop := front = [] ∨ [slash] <:+ front

/-- Whether the last segment of a text is `**`. -/
def EndsInAny (front : Text) : Prop := ∃ before, StartsSegment before ∧ front = before ++ anySegments

/-- A text whose last segment is another one is read alone as it is in front of a slash. -/
theorem settled_of_not_endsInAny {front : Text} (h : ¬EndsInAny front) : Settled true front where
  whole := fun _ heq => h ⟨[], Or.inl rfl, heq⟩
  segment := by
    rintro ⟨before, rfl⟩
    exact h ⟨before ++ [slash], Or.inr (List.suffix_append before [slash]), by simp⟩

/-- **A pattern is read segment by segment**: where a segment starts, it is read on from what has been
read so far. -/
theorem tokensFrom_append {front s : Text} (h : StartsSegment front) (hs : Class.closing ∉ s) :
    tokensFrom [] true (front ++ s) = tokensFrom (tokens front).reverse true s := by
  -- The end of the pattern may follow as well, and it says what has been read.
  suffices hread : ∃ read, ∀ s, Class.closing ∉ s →
      tokensFrom [] true (front ++ s) = tokensFrom read true s by
    obtain ⟨read, hread⟩ := hread
    have hfront := hread [] (by simp)
    rw [List.append_nil, tokensFrom] at hfront
    rw [hread s hs, tokens, hfront, List.reverse_reverse]
  rcases h with rfl | ⟨front, rfl⟩
  · exact ⟨[], fun _ _ => rfl⟩
  by_cases hany : EndsInAny front
  · obtain ⟨front, hstart, rfl⟩ := hany
    refine ⟨.folders :: (tokens front).reverse, fun s hs => ?_⟩
    have hbehind : Class.closing ∉ anySegments ++ slash :: s := by
      have hstars : Class.closing ∉ anySegments := by decide
      rw [List.mem_append]
      exact not_or.mpr ⟨hstars, closing_not_mem_slash hs⟩
    rw [List.append_assoc, List.append_assoc, List.singleton_append,
      tokensFrom_append hstart hbehind, tokensFrom_folders]
  · refine ⟨.literal slash :: (tokens front).reverse, fun s hs => ?_⟩
    rw [List.append_assoc, List.singleton_append, tokens]
    exact tokensFrom_append_slash hs [] (settled_of_not_endsInAny hany)
termination_by front.length

/-! ### Tokens of the final stars -/

theorem not_endsInAny_of_startsSegment {front : Text} (h : StartsSegment front) :
    ¬EndsInAny front := by
  rintro ⟨before, -, rfl⟩
  rw [show anySegments = [CodePoint.ofChar '*', CodePoint.ofChar '*'] from rfl,
    List.append_cons] at h
  rcases h with hnil | ⟨front, hslash⟩
  · simp at hnil
  · have hlast := List.append_inj_right' hslash rfl
    exact absurd hlast (by decide)

section

variable {front path : Text}

theorem tokens_slash (h : ¬EndsInAny front) :
    tokens (front ++ [slash]) = tokens front ++ [.literal slash] := by
  rw [tokens, tokensFrom_append_slash List.not_mem_nil [] (settled_of_not_endsInAny h), tokensFrom,
    List.reverse_cons, List.reverse_reverse, tokens]

/-- A final `**` behind a slash takes the slash along. -/
theorem tokens_subtree (h : ¬EndsInAny front) :
    tokens (front ++ slash :: anySegments) = tokens front ++ [.subtree] := by
  rw [tokens, tokensFrom_append_slash (by decide) [] (settled_of_not_endsInAny h),
    tokensFrom_subtree, List.reverse_reverse, tokens]

/-- Behind another `**/` it takes the folders along, so that these are not there. -/
theorem tokens_doubled (h : StartsSegment front) :
    tokens (front ++ (anySegments ++ slash :: anySegments)) = tokens front ++ [.subtree] := by
  rw [tokens, tokensFrom_append h (by decide), tokensFrom_folders, tokensFrom_subtree,
    List.reverse_reverse]

/-! ### What they stand for -/

/-- A path is a place or stands below it: a slash and anything follow. -/
def AtOrUnder (place path : Text) : Prop := path = place ∨ ∃ below, path = place ++ slash :: below

/-- A path is a place that a pattern matches, or stands below one. -/
def InSubtree (pattern path : Text) : Prop :=
  ∃ place, isMatch pattern place = true ∧ AtOrUnder place path

theorem AtOrUnder.isPrefix {place : Text} (h : AtOrUnder place path) : place <+: path := by
  rcases h with rfl | ⟨below, rfl⟩
  · exact List.prefix_rfl
  · exact List.prefix_append place (slash :: below)

theorem AtOrUnder.of_slash {place : Text} (h : AtOrUnder (place ++ [slash]) path) :
    AtOrUnder place path := by
  rcases h with rfl | ⟨below, rfl⟩
  · exact Or.inr ⟨[], rfl⟩
  · exact Or.inr ⟨slash :: below, List.append_assoc place [slash] (slash :: below)⟩

/-- A final subtree token finds what is below the places of the tokens in front of it. -/
theorem accepts_inSubtree_iff (hpath : lineFeed ∉ path) :
    accepts (tokens front ++ [.subtree]) path = true ↔ InSubtree front path := by
  rw [accepts_append_iff hpath]
  constructor
  · rintro ⟨place, rest, rfl, hplace, hrest⟩
    have hfeed : lineFeed ∉ rest := fun hmem => hpath (List.mem_append_right place hmem)
    rcases (accepts_subtree_iff hfeed).mp hrest with rfl | ⟨below, rfl⟩
    · exact ⟨place, hplace, Or.inl (List.append_nil place)⟩
    · exact ⟨place, hplace, Or.inr ⟨below, rfl⟩⟩
  · rintro ⟨place, hplace, rfl | ⟨below, rfl⟩⟩
    · exact ⟨path, [], (List.append_nil path).symm, hplace, rfl⟩
    · have hfeed : lineFeed ∉ slash :: below := fun hmem => hpath (List.mem_append_right place hmem)
      exact ⟨place, _, rfl, hplace, (accepts_subtree_iff hfeed).mpr (Or.inr ⟨below, rfl⟩)⟩

theorem isMatch_subtree_iff (h : ¬EndsInAny front) (hpath : lineFeed ∉ path) :
    isMatch (front ++ slash :: anySegments) path = true ↔ InSubtree front path := by
  rw [isMatch, tokens_subtree h, accepts_inSubtree_iff hpath]

theorem isMatch_doubled_iff (h : StartsSegment front) (hpath : lineFeed ∉ path) :
    isMatch (front ++ (anySegments ++ slash :: anySegments)) path = true ↔
      InSubtree front path := by
  rw [isMatch, tokens_doubled h, accepts_inSubtree_iff hpath]

/-- A slash at the end of a pattern is a slash at the end of the path. -/
theorem isMatch_slash_iff (h : ¬EndsInAny front) (hpath : lineFeed ∉ path) :
    isMatch (front ++ [slash]) path = true ↔
      ∃ place, path = place ++ [slash] ∧ isMatch front place = true := by
  rw [isMatch, tokens_slash h, accepts_append_iff hpath]
  constructor
  · rintro ⟨place, rest, rfl, hplace, hrest⟩
    have hfeed : lineFeed ∉ rest := fun hmem => hpath (List.mem_append_right place hmem)
    have hslash : rest = [slash] := (accepts_literals_iff hfeed).mp hrest
    exact ⟨place, by rw [hslash], hplace⟩
  · rintro ⟨place, rfl, hplace⟩
    exact ⟨place, [slash], rfl, hplace, rfl⟩

/-- Behind a folder, a doubled `**` asks for a slash more than a single one. -/
theorem inSubtree_slash_iff (h : ¬EndsInAny front) (hpath : lineFeed ∉ path) :
    InSubtree (front ++ [slash]) path ↔
      ∃ place, isMatch front place = true ∧ AtOrUnder (place ++ [slash]) path := by
  constructor
  · rintro ⟨place, hplace, hat⟩
    have hfeed : lineFeed ∉ place := fun hmem => hpath (hat.isPrefix.subset hmem)
    obtain ⟨folder, rfl, hfolder⟩ := (isMatch_slash_iff h hfeed).mp hplace
    exact ⟨folder, hfolder, hat⟩
  · rintro ⟨place, hplace, hat⟩
    have hfeed : lineFeed ∉ place ++ [slash] := fun hmem => hpath (hat.isPrefix.subset hmem)
    exact ⟨place ++ [slash], (isMatch_slash_iff h hfeed).mpr ⟨place, rfl, hplace⟩, hat⟩

end

/-- What two stars twice match at the end of a pattern, and what two stars once match there. -/
structure DoubledStars (front path : Text) : Prop where
  /-- Two stars twice are read as an empty segment in front of two stars once. -/
  emptySegment : isMatch (front ++ "**/**") path = isMatch (front ++ "/**") path
  /-- They match what stands below the front as it is, with its slash. -/
  doubled : isMatch (front ++ "**/**") path = true ↔ InSubtree front path
  /-- Alone, two stars once match everything. -/
  alone : front = [] → isMatch (front ++ "**") path = true
  /-- Behind `**/` they are two stars twice themselves. -/
  behindStars : ∀ outer, StartsSegment outer → front = outer ++ "**/" →
    (isMatch (front ++ "**") path = true ↔ InSubtree outer path)
  /-- Behind another folder they match the folder and what stands below it. -/
  single : ∀ folder, front = folder ++ [slash] → ¬EndsInAny folder →
    (isMatch (front ++ "**") path = true ↔ InSubtree folder path)
  /-- There two stars twice match no more. -/
  doubled_le : ∀ folder, front = folder ++ [slash] → ¬EndsInAny folder →
    isMatch (front ++ "**/**") path = true → isMatch (front ++ "**") path = true
  /-- They match the same if whatever stands below the folder starts with an empty segment. -/
  agree : ∀ folder, front = folder ++ [slash] → ¬EndsInAny folder →
    (∀ place, isMatch folder place = true → AtOrUnder place path →
      AtOrUnder (place ++ [slash]) path) →
    isMatch (front ++ "**/**") path = isMatch (front ++ "**") path

/-- **Two stars twice at the end of a pattern ask for an empty segment**, behind every front that is
empty or ends with a slash. -/
theorem isMatch_doubled {front path : Text} (hstart : StartsSegment front)
    (hpath : lineFeed ∉ path) : DoubledStars front path := by
  have hdoubled : isMatch (front ++ "**/**") path = true ↔ InSubtree front path :=
    isMatch_doubled_iff hstart hpath
  have hempty : isMatch (front ++ "/**") path = true ↔ InSubtree front path :=
    isMatch_subtree_iff (not_endsInAny_of_startsSegment hstart) hpath
  have hsingle : ∀ folder, front = folder ++ [slash] → ¬EndsInAny folder →
      (isMatch (front ++ "**") path = true ↔ InSubtree folder path) := by
    rintro folder rfl hfolder
    rw [List.append_assoc]
    exact isMatch_subtree_iff hfolder hpath
  have hless : ∀ folder, front = folder ++ [slash] → ¬EndsInAny folder →
      isMatch (front ++ "**/**") path = true → isMatch (front ++ "**") path = true := by
    rintro folder rfl hfolder hmatch
    obtain ⟨place, hplace, hat⟩ := (inSubtree_slash_iff hfolder hpath).mp (hdoubled.mp hmatch)
    exact (hsingle folder rfl hfolder).mpr ⟨place, hplace, hat.of_slash⟩
  refine ⟨Bool.eq_iff_iff.mpr (hdoubled.trans hempty.symm), hdoubled, ?_, ?_, hsingle, hless, ?_⟩
  · rintro rfl
    show accepts (tokens anySegments) path = true
    rw [tokens, tokensFrom_span]
    exact accepts_span hpath
  · rintro outer houter rfl
    rw [List.append_assoc]
    exact isMatch_doubled_iff houter hpath
  · rintro folder rfl hfolder hbelow
    refine Bool.eq_iff_iff.mpr ⟨hless folder rfl hfolder, fun hmatch => ?_⟩
    obtain ⟨place, hplace, hat⟩ := (hsingle folder rfl hfolder).mp hmatch
    exact hdoubled.mpr
      ((inSubtree_slash_iff hfolder hpath).mpr ⟨place, hplace, hbelow place hplace hat⟩)

/-- Behind a class and a star, with an empty segment in the path. -/
theorem isMatch_doubled_emptySegment :
    StartsSegment "[sl]rc/*/" ∧ lineFeed ∉ Text.ofString "src/a//b" ∧ ¬EndsInAny "[sl]rc/*" ∧
      isMatch "[sl]rc/*/**/**" "src/a//b" = true ∧ InSubtree "[sl]rc/*/" "src/a//b" ∧
      InSubtree "[sl]rc/*" "src/a//b" := by
  have hstart : StartsSegment "[sl]rc/*/" := Or.inr (by decide)
  have hpath : lineFeed ∉ Text.ofString "src/a//b" := by decide
  have hfolder : ¬EndsInAny "[sl]rc/*" := by
    rintro ⟨before, -, hfront⟩
    have hsuffix : anySegments <:+ Text.ofString "[sl]rc/*" := ⟨before, hfront.symm⟩
    exact absurd hsuffix (by decide)
  have hmatch : isMatch "[sl]rc/*/**/**" "src/a//b" = true := by decide +kernel
  have hstars := isMatch_doubled hstart hpath
  have hsingle := hstars.doubled_le "[sl]rc/*" rfl hfolder hmatch
  exact ⟨hstart, hpath, hfolder, hmatch, hstars.doubled.mp hmatch,
    (hstars.single "[sl]rc/*" rfl hfolder).mp hsingle⟩

/-- **Two stars twice miss what is in a folder**, and nearly everything where they stand alone. -/
theorem isMatch_doubled_misses :
    isMatch "src/**" "src/a" = true ∧ isMatch "src/**/**" "src/a" = false ∧
      isMatch "**" "a" = true ∧ isMatch "**/**" "a" = false := by
  decide +kernel

end Glob

end PatchReview
