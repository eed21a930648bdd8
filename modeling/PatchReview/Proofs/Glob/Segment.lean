/-
The segment reading of globs.

A glob is matched against a path code point by code point, but it is meant segment by
segment: a segment `**` stands for any number of segments of the path, and any other
segment for one, in which `*` is any run and `?` any code point.  Here both readings are
shown to agree on patterns without classes.

The tokens of a pattern follow from its segments: each segment has its own tokens, and what
stands between two of them depends on which of the two are `**`.  That is `ofSegments`, and
with it the proof has two halves, each an induction over segments: reading a pattern gives
these tokens, and these tokens match as the segments do.

Two segments `**` at the very end are left out.  The second one takes the slash in front of
it along, but that slash has been taken already.
-/
import PatchReview.Proofs.Glob.Match
import PatchReview.Proofs.Text

namespace PatchReview

namespace Glob

open CodePoint (lineFeed)

/-- A segment that stands for any number of segments. -/
def anySegments : Text := "**"

/-- How a text matches a segment of a pattern: a star is any run, a question mark any code point,
and every other code point is itself. -/
inductive SegmentMatches : Text → Text → Prop
  | done : SegmentMatches [] []
  | run (skipped : Text) {segment t : Text} (h : SegmentMatches segment t) :
      SegmentMatches ('*' :: segment) (skipped ++ t)
  | one (c : CodePoint) {segment t : Text} (h : SegmentMatches segment t) :
      SegmentMatches ('?' :: segment) (c :: t)
  | literal {c : CodePoint} (star : c ≠ '*') (mark : c ≠ '?') {segment t : Text}
      (h : SegmentMatches segment t) : SegmentMatches (c :: segment) (c :: t)

/-- How the segments of a path match those of a pattern. -/
inductive PathMatches : List Text → List Text → Prop
  | done : PathMatches [] []
  | skip (skipped : List Text) {pattern path : List Text} (h : PathMatches pattern path) :
      PathMatches (anySegments :: pattern) (skipped ++ path)
  | one {segment part : Text} (plain : segment ≠ anySegments) (first : SegmentMatches segment part)
      {pattern path : List Text} (h : PathMatches pattern path) :
      PathMatches (segment :: pattern) (part :: path)

section

variable {segment t : Text}

theorem segmentMatches_star :
    SegmentMatches ('*' :: segment) t ↔ ∃ u v, t = u ++ v ∧ SegmentMatches segment v := by
  constructor
  · intro h
    cases h with
    | run skipped h => exact ⟨skipped, _, rfl, h⟩
    | literal star => exact absurd rfl star
  · rintro ⟨u, v, rfl, h⟩
    exact .run u h

/-- Behind anything but a star, one code point is matched by one. -/
theorem segmentMatches_cons {c : CodePoint} (star : c ≠ '*') :
    SegmentMatches (c :: segment) t ↔
      ∃ d v, t = d :: v ∧ (c = '?' ∨ d = c) ∧ SegmentMatches segment v := by
  constructor
  · intro h
    cases h with
    | run => exact absurd rfl star
    | one d h => exact ⟨d, _, rfl, Or.inl rfl, h⟩
    | literal _ _ h => exact ⟨c, _, rfl, Or.inr rfl, h⟩
  · rintro ⟨d, v, rfl, rfl | rfl, h⟩
    · exact .one d h
    · by_cases mark : d = '?'
      · subst mark
        exact .one _ h
      · exact .literal star mark h

end

theorem pathMatches_any {segments path : List Text} :
    PathMatches (anySegments :: segments) path ↔
      ∃ front back, path = front ++ back ∧ PathMatches segments back := by
  constructor
  · intro h
    cases h with
    | skip skipped h => exact ⟨skipped, _, rfl, h⟩
    | one plain => exact absurd rfl plain
  · rintro ⟨front, back, rfl, h⟩
    exact .skip front h

theorem pathMatches_plain {segment : Text} {segments path : List Text}
    (hplain : segment ≠ anySegments) :
    PathMatches (segment :: segments) path ↔
      ∃ part rest, path = part :: rest ∧ SegmentMatches segment part ∧
        PathMatches segments rest := by
  constructor
  · intro h
    cases h with
    | skip => exact absurd rfl hplain
    | one _ first h => exact ⟨_, _, rfl, first, h⟩
  · rintro ⟨part, rest, rfl, first, h⟩
    exact .one hplain first h

theorem pathMatches_anySegments (path : List Text) : PathMatches [anySegments] path :=
  pathMatches_any.mpr ⟨path, [], (List.append_nil path).symm, .done⟩

/-- A pattern that can be read segment by segment. -/
structure Segmented (pattern : Text) : Prop where
  /-- It has no classes. -/
  noClass : Class.closing ∉ pattern
  /-- Stars that stand side by side are two, and fill a segment. -/
  stars : ∀ segment ∈ Text.splitOn slash pattern,
    segment = anySegments ∨ ¬anySegments <:+: segment
  /-- It is not two such segments, and does not end with two behind others. -/
  notDoubled : pattern ≠ "**/**"
  notEndDoubled : ¬Text.ofString "/**/**" <:+ pattern

/-! ### Tokens by segments -/

/-- The token of a code point of a segment. -/
def tokenOf (c : CodePoint) : Token :=
  if c = '*' then .run else if c = '?' then .one else .literal c

/-- The tokens of a pattern with some segments. -/
def ofSegments : List Text → List Token
  | [] => []
  | [segment] => if segment = anySegments then [.span] else segment.map tokenOf
  | segment :: next :: rest =>
    if segment = anySegments then .folders :: ofSegments (next :: rest)
    else if next = anySegments ∧ rest = [] then segment.map tokenOf ++ [.subtree]
    else segment.map tokenOf ++ .literal slash :: ofSegments (next :: rest)

/-- A segment that is plain text but for stars and question marks. -/
structure PlainSegment (segment : Text) : Prop where
  noSlash : slash ∉ segment
  noClass : Class.closing ∉ segment
  noStars : ¬anySegments <:+: segment

theorem Class.body?_eq_none {t : Text} (h : closing ∉ t) : body? t = none := by
  have hhead : t.head? ≠ some closing := fun hhead => h (List.mem_of_head? hhead)
  have helem : t.elem closing = false := by simpa using h
  rw [body?, if_neg hhead]
  simp only [List.length_nil, List.drop_zero, helem, Bool.false_eq_true, if_false]

/-- A bracket that nothing closes opens no class. -/
theorem Class.read?_eq_none {t : Text} (h : closing ∉ t) : read? t = none := by
  have hbody : ∀ n, body? (t.drop n) = none := fun n =>
    body?_eq_none fun hmem => h (List.mem_of_mem_drop hmem)
  simp only [read?, hbody]
  rfl

/-- Reading one code point of a plain segment. -/
theorem tokensFrom_cons {c : CodePoint} {t : Text} (hslash : c ≠ slash)
    (hclass : Class.closing ∉ t) (hstars : c = '*' → t.head? ≠ some (CodePoint.ofChar '*'))
    (read : List Token) (atSegment : Bool) :
    tokensFrom read atSegment (c :: t) = tokensFrom (tokenOf c :: read) false t := by
  rw [tokensFrom, tokenOf]
  by_cases hstar : c = '*'
  · rw [if_pos hstar, if_pos hstar, if_neg (hstars hstar)]
  rw [if_neg hstar, if_neg hstar]
  by_cases hmark : c = '?'
  · rw [if_pos hmark, if_pos hmark]
  rw [if_neg hmark, if_neg hmark, Class.read?_eq_none hclass]
  simp [hslash]

theorem PlainSegment.tail {c : CodePoint} {segment : Text} (h : PlainSegment (c :: segment)) :
    PlainSegment segment where
  noSlash := fun hmem => h.noSlash (List.mem_cons_of_mem c hmem)
  noClass := fun hmem => h.noClass (List.mem_cons_of_mem c hmem)
  noStars := fun hstars => h.noStars (hstars.trans (List.suffix_cons c segment).isInfix)

theorem PlainSegment.ne_any {segment : Text} (h : PlainSegment segment) :
    segment ≠ anySegments := by
  rintro rfl
  exact h.noStars List.infix_rfl

/-- Reading a plain segment, in front of a slash or at the end of the pattern. -/
theorem tokensFrom_segment {segment rest : Text} (hplain : PlainSegment segment)
    (hclass : Class.closing ∉ rest) (hrest : rest.head? ≠ some (CodePoint.ofChar '*'))
    (read : List Token) (atSegment : Bool) :
    tokensFrom read atSegment (segment ++ rest)
      = tokensFrom ((segment.map tokenOf).reverse ++ read) (atSegment && segment.isEmpty) rest := by
  induction segment generalizing read atSegment with
  | nil => simp
  | cons c segment ih =>
      have hslash : c ≠ slash := fun hc => hplain.noSlash (by simp [hc])
      have hclosing : Class.closing ∉ segment ++ rest := by
        have := hplain.tail.noClass
        simp [this, hclass]
      have hstars : c = '*' → (segment ++ rest).head? ≠ some (CodePoint.ofChar '*') := by
        rintro rfl
        cases segment with
        | nil => exact hrest
        | cons d segment =>
            intro hhead
            obtain rfl : d = '*' := Option.some.inj hhead
            exact hplain.noStars (List.prefix_append anySegments segment).isInfix
      rw [List.cons_append, tokensFrom_cons hslash hclosing hstars, ih hplain.tail]
      simp

/-- A slash is read as it is, and a segment starts behind it. -/
theorem tokensFrom_slash (read : List Token) (atSegment : Bool) (t : Text) :
    tokensFrom read atSegment (slash :: t) = tokensFrom (.literal slash :: read) true t := by
  rw [tokensFrom, if_neg (by decide), if_neg (by decide), if_neg (by decide)]
  rfl

theorem tokensFrom_folders (read : List Token) (t : Text) :
    tokensFrom read true (anySegments ++ slash :: t) = tokensFrom (.folders :: read) true t := by
  show tokensFrom read true ('*' :: '*' :: slash :: t) = _
  rw [tokensFrom, if_pos rfl]
  simp

theorem tokensFrom_subtree (first : Token) (read : List Token) :
    tokensFrom (first :: read) true anySegments = read.reverse ++ [.subtree] := by
  show tokensFrom (first :: read) true ['*', '*'] = _
  rw [tokensFrom, if_pos rfl]
  simp

theorem tokensFrom_span : tokensFrom [] true anySegments = [.span] := by
  show tokensFrom [] true ['*', '*'] = _
  rw [tokensFrom, if_pos rfl]
  simp [tokensFrom]

/-- Segments of a pattern that can be read one by one. -/
structure Tidy (segments : List Text) : Prop where
  parts : ∀ segment ∈ segments, segment = anySegments ∨ PlainSegment segment
  notDoubled : ¬[anySegments, anySegments] <:+ segments

theorem Tidy.tail {segment : Text} {segments : List Text} (h : Tidy (segment :: segments)) :
    Tidy segments where
  parts := fun s hs => h.parts s (List.mem_cons_of_mem segment hs)
  notDoubled := fun hsuffix => h.notDoubled (hsuffix.trans (List.suffix_cons segment segments))

/-- Two segments `**` at the end are left out, so something else follows one in front. -/
theorem Tidy.tail_ne {segments : List Text} (h : Tidy (anySegments :: segments)) :
    segments ≠ [anySegments] := by
  rintro rfl
  exact h.notDoubled List.suffix_rfl

theorem closing_not_mem_slash {t : Text} (h : Class.closing ∉ t) : Class.closing ∉ slash :: t :=
  List.not_mem_cons_of_ne_of_not_mem (by decide) h

theorem Tidy.closing_not_mem {segments : List Text} (h : Tidy segments) :
    Class.closing ∉ Text.join [slash] segments := by
  induction segments with
  | nil => simp [Text.join]
  | cons segment segments ih =>
      have hfirst : Class.closing ∉ segment := by
        rcases h.parts segment (by simp) with rfl | hplain
        · decide
        · exact hplain.noClass
      cases segments with
      | nil => exact hfirst
      | cons next rest =>
          have hrest := closing_not_mem_slash (ih h.tail)
          rw [Text.join_cons (by simp), List.append_assoc, List.singleton_append, List.mem_append]
          exact not_or.mpr ⟨hfirst, hrest⟩

/-- Reading segments that are joined gives their tokens. -/
theorem tokensFrom_join {segments : List Text} (h : Tidy segments) (hne : segments ≠ [])
    (read : List Token) (hread : segments = [anySegments] → read = []) :
    tokensFrom read true (Text.join [slash] segments) = read.reverse ++ ofSegments segments := by
  induction segments generalizing read with
  | nil => exact absurd rfl hne
  | cons segment segments ih =>
      cases segments with
      | nil =>
          rw [Text.join, ofSegments]
          rcases h.parts segment (by simp) with rfl | hplain
          · rw [hread rfl, tokensFrom_span]
            rfl
          · have hnil : Class.closing ∉ ([] : Text) := List.not_mem_nil
            have hend := tokensFrom_segment hplain hnil (by simp) read true
            rw [List.append_nil] at hend
            rw [hend, if_neg hplain.ne_any, tokensFrom]
            simp
      | cons next rest =>
          have hclosing := h.tail.closing_not_mem
          rw [Text.join_cons (by simp), List.append_assoc, List.singleton_append, ofSegments]
          rcases h.parts segment (by simp) with rfl | hplain
          · have hnext := h.tail_ne
            rw [tokensFrom_folders, if_pos rfl, ih h.tail (by simp) _ fun hend => absurd hend hnext]
            simp
          · have hslash := closing_not_mem_slash hclosing
            have hhead : (slash :: Text.join [slash] (next :: rest)).head?
                ≠ some (CodePoint.ofChar '*') := by
              rw [List.head?_cons]
              decide
            rw [tokensFrom_segment hplain hslash hhead, tokensFrom_slash, if_neg hplain.ne_any]
            by_cases hlast : next = anySegments ∧ rest = []
            · obtain ⟨rfl, rfl⟩ := hlast
              rw [if_pos ⟨rfl, rfl⟩, Text.join, tokensFrom_subtree]
              simp
            · rw [if_neg hlast,
                ih h.tail (by simp) _ fun hend => absurd (by simpa using hend) hlast]
              simp

/-! ### What the tokens match -/

/-- A path starts with a piece without slashes that matches a segment, and `next` accepts the
rest. -/
def StartsWithSegment (segment : Text) (next : Text → Bool) (t : Text) : Prop :=
  ∃ u v, t = u ++ v ∧ slash ∉ u ∧ SegmentMatches segment u ∧ next v = true

section

variable {segment : Text} {next behind : Text → Bool}
  (hnext : ∀ t, next t = true ↔ StartsWithSegment segment behind t)

include hnext

theorem afterRun_segment_iff (t : Text) :
    afterRun (· != slash) next t = true ↔ StartsWithSegment ('*' :: segment) behind t := by
  rw [afterRun_iff]
  constructor
  · rintro ⟨skipped, t, rfl, hskipped, h⟩
    obtain ⟨u, v, rfl, hu, hmatch, hv⟩ := (hnext t).mp h
    have hskipped : slash ∉ skipped := fun hmem => by simpa using hskipped slash hmem
    refine ⟨skipped ++ u, v, (List.append_assoc skipped u v).symm, ?_, .run skipped hmatch, hv⟩
    simp [hskipped, hu]
  · rintro ⟨u, v, rfl, hu, hmatch, hv⟩
    obtain ⟨skipped, u, rfl, hrest⟩ := segmentMatches_star.mp hmatch
    rw [List.mem_append, not_or] at hu
    refine ⟨skipped, u ++ v, List.append_assoc skipped u v, fun d hd => ?_,
      (hnext (u ++ v)).mpr ⟨u, v, rfl, hu.2, hrest, hv⟩⟩
    have hne : d ≠ slash := fun heq => hu.1 (heq ▸ hd)
    simpa using hne

theorem afterOne_segment_iff {p : CodePoint → Bool} {c : CodePoint} (hstar : c ≠ '*')
    (hp : ∀ d, p d = true ↔ d ≠ slash ∧ (c = '?' ∨ d = c)) (t : Text) :
    afterOne p next t = true ↔ StartsWithSegment (c :: segment) behind t := by
  rw [afterOne_iff]
  constructor
  · rintro ⟨d, t, rfl, hd, h⟩
    obtain ⟨u, v, rfl, hu, hmatch, hv⟩ := (hnext t).mp h
    obtain ⟨hslash, hd⟩ := (hp d).mp hd
    exact ⟨d :: u, v, rfl, List.not_mem_cons_of_ne_of_not_mem hslash.symm hu,
      (segmentMatches_cons hstar).mpr ⟨d, u, rfl, hd, hmatch⟩, hv⟩
  · rintro ⟨u, v, rfl, hu, hmatch, hv⟩
    obtain ⟨d, u, rfl, hd, hrest⟩ := (segmentMatches_cons hstar).mp hmatch
    have hslash : d ≠ slash := (List.ne_of_not_mem_cons hu).symm
    exact ⟨d, u ++ v, rfl, (hp d).mpr ⟨hslash, hd⟩,
      (hnext (u ++ v)).mpr ⟨u, v, rfl, List.not_mem_of_not_mem_cons hu, hrest, hv⟩⟩

end

/-- The tokens of a segment match a piece of a path without slashes that matches the segment. -/
theorem accepts_segment_iff {segment : Text} (hslash : slash ∉ segment) (behind : List Token)
    (t : Text) :
    accepts (segment.map tokenOf ++ behind) t = true ↔
      StartsWithSegment segment (accepts behind) t := by
  induction segment generalizing t with
  | nil =>
      constructor
      · intro h
        exact ⟨[], t, rfl, by simp, .done, h⟩
      · rintro ⟨u, v, rfl, -, hmatch, h⟩
        cases hmatch
        exact h
  | cons c segment ih =>
      have ih := ih fun hmem => hslash (List.mem_cons_of_mem c hmem)
      have hc : c ≠ slash := fun hc => hslash (by simp [hc])
      rw [List.map_cons, List.cons_append, tokenOf]
      by_cases hstar : c = '*'
      · subst hstar
        rw [if_pos rfl]
        exact afterRun_segment_iff ih t
      rw [if_neg hstar]
      by_cases hmark : c = '?'
      · rw [if_pos hmark]
        exact afterOne_segment_iff ih hstar (fun d => by simp [hmark]) t
      · rw [if_neg hmark]
        refine afterOne_segment_iff ih hstar (fun d => ?_) t
        have hslash : d = c → d ≠ slash := fun hd => hd ▸ hc
        simpa [hmark] using hslash

/-- Only a single `**` stands for no segments at all. -/
theorem not_pathMatches_nil {segments : List Text} (h : Tidy segments) (hne : segments ≠ [])
    (hany : segments ≠ [anySegments]) : ¬PathMatches segments [] := by
  induction segments with
  | nil => exact absurd rfl hne
  | cons segment segments ih =>
      intro hmatch
      by_cases hsegment : segment = anySegments
      · subst hsegment
        obtain ⟨front, back, hnil, hback⟩ := pathMatches_any.mp hmatch
        obtain ⟨rfl, rfl⟩ := List.append_eq_nil_iff.mp hnil.symm
        exact ih h.tail (fun hnil => hany (by rw [hnil])) h.tail_ne hback
      · obtain ⟨part, rest, hnil, -⟩ := (pathMatches_plain hsegment).mp hmatch
        exact absurd hnil (by simp)

/-- What stands behind a segment in a path is nothing, or a slash and the segments that match. -/
def MatchesBehind (segments : List Text) (t : Text) : Prop :=
  t = [] ∧ PathMatches segments [] ∨
    ∃ rest, t = slash :: rest ∧ PathMatches segments (Text.splitOn slash rest)

/-- A plain segment takes the path up to its first slash, and the tokens behind it the rest. -/
theorem accepts_plain_iff {segment : Text} (hplain : PlainSegment segment) {segments : List Text}
    {behind : List Token}
    (hbehind : ∀ v, lineFeed ∉ v → (accepts behind v = true ↔ MatchesBehind segments v))
    {t : Text} (ht : lineFeed ∉ t) :
    accepts (segment.map tokenOf ++ behind) t = true ↔
      PathMatches (segment :: segments) (Text.splitOn slash t) := by
  rw [accepts_segment_iff hplain.noSlash, pathMatches_plain hplain.ne_any]
  constructor
  · rintro ⟨u, v, rfl, hu, hmatch, hv⟩
    have hfeed : lineFeed ∉ v := fun hmem => ht (List.mem_append_right u hmem)
    rcases (hbehind v hfeed).mp hv with ⟨rfl, hend⟩ | ⟨w, rfl, hw⟩
    · rw [List.append_nil]
      exact ⟨u, [], Text.splitOn_of_not_mem hu, hmatch, hend⟩
    · exact ⟨u, _, Text.splitOn_append hu w, hmatch, hw⟩
  · rintro ⟨part, parts, hsplit, hmatch, hparts⟩
    rcases Text.splitOn_cases slash t with ⟨hslash, hwhole⟩ | ⟨s, w, rfl, hs, hcut⟩
    · obtain ⟨rfl, rfl⟩ := List.cons.inj (hwhole.symm.trans hsplit)
      exact ⟨t, [], (List.append_nil t).symm, hslash, hmatch,
        (hbehind [] (by simp)).mpr (Or.inl ⟨rfl, hparts⟩)⟩
    · obtain ⟨rfl, rfl⟩ := List.cons.inj (hcut.symm.trans hsplit)
      have hfeed : lineFeed ∉ slash :: w := fun hmem => ht (List.mem_append_right s hmem)
      exact ⟨s, slash :: w, rfl, hs, hmatch,
        (hbehind _ hfeed).mpr (Or.inr ⟨w, rfl, hparts⟩)⟩

theorem accepts_nil_iff {t : Text} (ht : lineFeed ∉ t) :
    accepts [] t = true ↔ MatchesBehind [] t := by
  rw [accepts, atEnd_iff ht]
  constructor
  · intro hnil
    exact Or.inl ⟨hnil, .done⟩
  · rintro (⟨hnil, -⟩ | ⟨rest, -, hrest⟩)
    · exact hnil
    · generalize hparts : Text.splitOn slash rest = parts at hrest
      cases hrest
      exact absurd hparts (Text.splitOn_ne_nil slash rest)

theorem accepts_subtree_behind_iff {t : Text} (ht : lineFeed ∉ t) :
    accepts [.subtree] t = true ↔ MatchesBehind [anySegments] t := by
  simp only [accepts_subtree_iff ht, MatchesBehind, pathMatches_anySegments, and_true]

section

variable {segments : List Text} (h : Tidy segments) (hne : segments ≠ [])
  (hany : segments ≠ [anySegments])
  (ih : ∀ {t : Text}, lineFeed ∉ t →
    (accepts (ofSegments segments) t = true ↔ PathMatches segments (Text.splitOn slash t)))
  {t : Text} (ht : lineFeed ∉ t)

include h hne hany ih ht

theorem accepts_slash_iff :
    accepts (.literal slash :: ofSegments segments) t = true ↔ MatchesBehind segments t := by
  rw [accepts, afterOne_iff]
  constructor
  · rintro ⟨c, rest, rfl, hc, hrest⟩
    obtain rfl : c = slash := by simpa using hc
    have hfeed : lineFeed ∉ rest := fun hmem => ht (List.mem_cons_of_mem _ hmem)
    exact Or.inr ⟨rest, rfl, (ih hfeed).mp hrest⟩
  · rintro (⟨-, hnil⟩ | ⟨rest, rfl, hrest⟩)
    · exact absurd hnil (not_pathMatches_nil h hne hany)
    · have hfeed : lineFeed ∉ rest := fun hmem => ht (List.mem_cons_of_mem _ hmem)
      exact ⟨slash, rest, rfl, by simp, (ih hfeed).mpr hrest⟩

theorem accepts_folders_segments_iff :
    accepts (.folders :: ofSegments segments) t = true ↔
      PathMatches (anySegments :: segments) (Text.splitOn slash t) := by
  rw [accepts_folders_iff ht, pathMatches_any]
  constructor
  · rintro ⟨v, rfl | ⟨u, rfl⟩, hv⟩
    · exact ⟨[], _, rfl, (ih ht).mp hv⟩
    · have hfeed : lineFeed ∉ v := fun hmem => ht (by simp [hmem])
      exact ⟨_, _, Text.splitOn_append_self slash u v, (ih hfeed).mp hv⟩
  · rintro ⟨front, back, hsplit, hback⟩
    have hback_ne : back ≠ [] := by
      rintro rfl
      exact not_pathMatches_nil h hne hany hback
    obtain ⟨v, rfl, hv⟩ := Text.splitOn_eq_append hsplit hback_ne
    have hfeed : lineFeed ∉ v := by
      rcases hv with rfl | ⟨u, rfl⟩
      · exact ht
      · exact fun hmem => ht (by simp [hmem])
    exact ⟨v, hv, (ih hfeed).mpr hback⟩

end

/-- **The tokens of segments match a path as the segments do.** -/
theorem accepts_ofSegments_iff {segments : List Text} (h : Tidy segments) (hne : segments ≠ [])
    {t : Text} (ht : lineFeed ∉ t) :
    accepts (ofSegments segments) t = true ↔ PathMatches segments (Text.splitOn slash t) := by
  induction segments generalizing t with
  | nil => exact absurd rfl hne
  | cons segment segments ih =>
      cases segments with
      | nil =>
          rw [ofSegments]
          rcases h.parts segment (by simp) with rfl | hplain
          · rw [if_pos rfl]
            exact iff_of_true (accepts_span ht) (pathMatches_anySegments _)
          · rw [if_neg hplain.ne_any, ← accepts_plain_iff hplain (fun _ => accepts_nil_iff) ht,
              List.append_nil]
      | cons next rest =>
          have ih := fun {t : Text} => @ih h.tail (by simp) t
          rw [ofSegments]
          rcases h.parts segment (by simp) with rfl | hplain
          · rw [if_pos rfl]
            exact accepts_folders_segments_iff h.tail (by simp) h.tail_ne ih ht
          rw [if_neg hplain.ne_any]
          by_cases hlast : next = anySegments ∧ rest = []
          · obtain ⟨rfl, rfl⟩ := hlast
            rw [if_pos ⟨rfl, rfl⟩]
            exact accepts_plain_iff hplain (fun _ => accepts_subtree_behind_iff) ht
          · have hnext : next :: rest ≠ [anySegments] := fun hend => hlast (by simpa using hend)
            rw [if_neg hlast]
            exact accepts_plain_iff hplain
              (fun _ => accepts_slash_iff h.tail (by simp) hnext ih) ht

/-! ### Patterns -/

/-- The segments of a pattern that can be read segment by segment. -/
theorem Segmented.tidy {pattern : Text} (h : Segmented pattern) :
    Tidy (Text.splitOn slash pattern) where
  parts segment hmem := by
    rcases h.stars segment hmem with hany | hstars
    · exact Or.inl hany
    · have hclass : Class.closing ∉ segment := fun hclosing =>
        h.noClass ((Text.isInfix_of_mem_splitOn hmem).subset hclosing)
      exact Or.inr ⟨Text.not_mem_of_mem_splitOn segment hmem, hclass, hstars⟩
  notDoubled := by
    rintro ⟨front, hfront⟩
    obtain ⟨v, hv, hwhere⟩ := Text.splitOn_eq_append hfront.symm (by simp)
    have hdoubled : v = "**/**" := by
      calc v = Text.join [slash] (Text.splitOn slash v) := (Text.join_splitOn slash v).symm
        _ = Text.join [slash] [anySegments, anySegments] := by rw [hv]
        _ = "**/**" := rfl
    rcases hwhere with hpattern | ⟨u, hpattern⟩
    · exact h.notDoubled (hpattern.symm.trans hdoubled)
    · exact h.notEndDoubled ⟨u, by rw [hpattern, hdoubled]; rfl⟩

/-- **Reading a pattern gives the tokens of its segments.** -/
theorem Segmented.tokens_eq {pattern : Text} (h : Segmented pattern) :
    tokens pattern = ofSegments (Text.splitOn slash pattern) := by
  calc tokens pattern
      = tokensFrom [] true (Text.join [slash] (Text.splitOn slash pattern)) := by
        rw [Text.join_splitOn, tokens]
    _ = ofSegments (Text.splitOn slash pattern) :=
        tokensFrom_join h.tidy (Text.splitOn_ne_nil slash pattern) [] fun _ => rfl

/-- **Globs mean what their segments say.**  A pattern that can be read segment by segment matches a
path without line feeds exactly when its segments match those of the path. -/
theorem isMatch_iff_pathMatches {pattern path : Text} (h : Segmented pattern)
    (hpath : lineFeed ∉ path) :
    isMatch pattern path = true ↔
      PathMatches (Text.splitOn slash pattern) (Text.splitOn slash path) := by
  rw [isMatch, h.tokens_eq]
  exact accepts_ofSegments_iff h.tidy (Text.splitOn_ne_nil slash pattern) hpath

/-- Folders in front, a bracket that nothing closes, a dot and a question mark, and a subtree. -/
theorem pathMatches_of_subtree :
    Segmented "**/[a*/b.?/**" ∧ lineFeed ∉ Text.ofString "x/y/[aq/b.c/d" ∧
      PathMatches (Text.splitOn slash "**/[a*/b.?/**") (Text.splitOn slash "x/y/[aq/b.c/d") := by
  have hsegmented : Segmented "**/[a*/b.?/**" :=
    ⟨by decide, by decide +kernel, by decide, by decide⟩
  have hpath : lineFeed ∉ Text.ofString "x/y/[aq/b.c/d" := by decide
  have hmatch : isMatch "**/[a*/b.?/**" "x/y/[aq/b.c/d" = true := by
    rw [isMatch, hsegmented.tokens_eq]
    decide +kernel
  exact ⟨hsegmented, hpath, (isMatch_iff_pathMatches hsegmented hpath).mp hmatch⟩

end Glob

end PatchReview
