/-
What normalizing makes of findings from elsewhere.

Whatever value the findings come in, each of them ends up with a rule, a file and an
area, with one of the four severities, and with a place and a fingerprint of a fixed
form.  The tests for the last two let one line feed pass at the end, and a text that
passes a test is kept as it is.  So the form is that of the text without such a line
feed, and it is the form of the whole text unless the item that was read brought one.
-/
import PatchReview.Proofs.Finding.Fingerprint
import PatchReview.Proofs.Finding.Normal

namespace PatchReview

open CodePoint (lineFeed)

namespace Finding

/-! ### The form of a finding -/

/-- The place of a line: `L`, at least one digit of any script, and nothing else. -/
def LinePlace (t : Text) : Prop :=
  ∃ digits : Text, digits ≠ [] ∧ (∀ c ∈ digits, c.isDigit = true) ∧ t = "L" ++ digits

/-- The place of a hunk: its header, which stands on one line, between two marks, and nothing
else. -/
def HunkPlace (t : Text) : Prop :=
  ∃ header : Text, lineFeed ∉ header ∧ t = "HUNK:@@" ++ header ++ "@@"

/-- The form that normalizing is to give to every finding. -/
structure Canonical (f : Finding) : Prop where
  rule : f.rule ≠ []
  file : f.file ≠ []
  area : f.area ≠ []
  severity : f.severity ∈ (["critical", "major", "minor", "info"] : List Text)
  locator : LinePlace f.locator ∨ HunkPlace f.locator
  fingerprint : f.fingerprint.length = 40 ∧ ∀ c ∈ f.fingerprint, c ∈ Fingerprint.alphabet

/-- A finding without the line feeds that may end its place and its fingerprint. -/
def withoutFinalFeeds (f : Finding) : Finding :=
  { f with
    locator := withoutFinalFeed f.locator, fingerprint := withoutFinalFeed f.fingerprint }

/-- Whether the text that a field brings ends in a line feed. -/
def bringsFeed (v : Json) (key : Text) : Bool :=
  (v.field key).displayOrEmpty.toOption.bind List.getLast? = some lineFeed

/-! ### Final line feeds -/

theorem withoutFinalFeed_of_ne {t : Text} (h : t.getLast? ≠ some lineFeed) :
    withoutFinalFeed t = t := if_neg h

theorem withoutFinalFeed_of_not_mem {t : Text} (h : lineFeed ∉ t) : withoutFinalFeed t = t :=
  withoutFinalFeed_of_ne fun hlast => h (List.mem_of_getLast? hlast)

theorem withoutFinalFeed_append (t : Text) : withoutFinalFeed (t ++ [lineFeed]) = t := by
  rw [withoutFinalFeed, if_pos (by simp), List.dropLast_concat]

/-- Writing letters small neither makes nor removes a line feed at the end. -/
theorem getLast?_asciiLower {t : Text} (h : t.getLast? ≠ some lineFeed) :
    t.asciiLower.getLast? ≠ some lineFeed := by
  intro hlast
  rw [Text.asciiLower, List.getLast?_map, Option.map_eq_some_iff] at hlast
  obtain ⟨c, hc, hlower⟩ := hlast
  have hsame : c = lineFeed := by
    unfold CodePoint.asciiLower at hlower
    split at hlower
    · have hnumber := congrArg CodePoint.toNat hlower
      have hfeed : lineFeed.toNat = 10 := rfl
      simp only [hfeed] at hnumber
      omega
    · exact hlower
  exact h (hsame ▸ hc)

/-! ### Places -/

theorem linePlace_of_isLinePlace {t : Text} (h : isLinePlace t = true) : LinePlace t := by
  unfold isLinePlace at h
  split at h
  · exact absurd h (by simp)
  · rename_i digits hdigits
    rw [Bool.and_eq_true, Bool.not_eq_true', List.isEmpty_eq_false_iff, List.all_eq_true] at h
    exact ⟨digits, h.1, h.2, Text.eq_append_of_dropStart? hdigits⟩

theorem hunkPlace_of_isHunkPlace {t : Text} (h : isHunkPlace t = true) : HunkPlace t := by
  unfold isHunkPlace at h
  split at h
  · exact absurd h (by simp)
  · rename_i rest hrest
    rw [Bool.and_eq_true, Text.startsWith_iff] at h
    obtain ⟨⟨behind, hbehind⟩, hsingle⟩ := h
    have hmarked : rest = behind.reverse ++ "@@" := by
      have hreverse := congrArg List.reverse hbehind
      rw [List.reverse_append, List.reverse_reverse] at hreverse
      exact hreverse.symm
    have hfeed : lineFeed ∉ behind.reverse := by
      intro hmem
      have hne := List.all_eq_true.mp hsingle lineFeed (hmarked ▸ List.mem_append_left _ hmem)
      exact absurd hne (by decide)
    refine ⟨behind.reverse, hfeed, ?_⟩
    rw [Text.eq_append_of_dropStart? hrest, hmarked, List.append_assoc]

/-- A text that can stand as a place has the form of one, but for a line feed at its end. -/
theorem place_of_isPlace {t : Text} (h : isPlace t = true) :
    LinePlace (withoutFinalFeed t) ∨ HunkPlace (withoutFinalFeed t) := by
  rw [isPlace, Bool.or_eq_true] at h
  exact h.imp linePlace_of_isLinePlace hunkPlace_of_isHunkPlace

theorem linePlace_default : LinePlace defaultLocator :=
  ⟨"0", by decide, by decide, rfl⟩

/-- No place has a line feed in it. -/
theorem noFeed_of_place {t : Text} (h : LinePlace t ∨ HunkPlace t) : lineFeed ∉ t := by
  rcases h with ⟨digits, -, hdigits, rfl⟩ | ⟨header, hheader, rfl⟩
  · intro hmem
    rcases List.mem_append.mp hmem with hmem | hmem
    · exact absurd hmem (by decide)
    · exact absurd (hdigits lineFeed hmem) (by decide)
  · intro hmem
    rcases List.mem_append.mp hmem with hmem | hmem
    · rcases List.mem_append.mp hmem with hmem | hmem
      · exact absurd hmem (by decide)
      · exact hheader hmem
    · exact absurd hmem (by decide)

/-! ### Fingerprints -/

theorem mem_alphabet_of_isHexDigit {c : CodePoint} (h : Fingerprint.isHexDigit c = true) :
    c ∈ Fingerprint.alphabet := by
  have hall : ∀ n < 103, (48 ≤ n ∧ n ≤ 57 ∨ 97 ≤ n) →
      ∃ d ∈ Fingerprint.alphabet, d.toNat = n := by decide
  have hrange : 48 ≤ c.toNat ∧ c.toNat ≤ 57 ∨ 97 ≤ c.toNat ∧ c.toNat ≤ 102 := by
    simpa [Fingerprint.isHexDigit, CodePoint.isAsciiDigit] using h
  obtain ⟨d, hd, hnumber⟩ := hall c.toNat (by omega) (by omega)
  rw [← CodePoint.ext hnumber]
  exact hd

theorem noFeed_of_digits {t : Text} (h : ∀ c ∈ t, c ∈ Fingerprint.alphabet) : lineFeed ∉ t :=
  fun hmem => absurd (h lineFeed hmem) (by decide)

/-- A text that can stand as a fingerprint has forty digits, but for a line feed behind them. -/
theorem digits_of_isFingerprint {t : Text} (h : Fingerprint.isFingerprint t = true) :
    (withoutFinalFeed t).length = 40 ∧ ∀ c ∈ withoutFinalFeed t, c ∈ Fingerprint.alphabet := by
  simp only [Fingerprint.isFingerprint, Bool.and_eq_true, Bool.or_eq_true, beq_iff_eq,
    List.all_eq_true] at h
  obtain ⟨⟨hlength, hhex⟩, hrest⟩ := h
  have hdigits : ∀ c ∈ t.take 40, c ∈ Fingerprint.alphabet :=
    fun c hc => mem_alphabet_of_isHexDigit (hhex c hc)
  have hwithout : withoutFinalFeed t = t.take 40 := by
    rcases hrest with hnone | hfeed
    · have hall : t = t.take 40 := by
        conv_lhs => rw [← List.take_append_drop 40 t, hnone, List.append_nil]
      rw [← hall]
      exact withoutFinalFeed_of_not_mem (hall ▸ noFeed_of_digits hdigits)
    · have hall : t = t.take 40 ++ [lineFeed] := by
        conv_lhs => rw [← List.take_append_drop 40 t, hfeed]
      conv_lhs => rw [hall]
      exact withoutFinalFeed_append _
  rw [hwithout]
  exact ⟨hlength, hdigits⟩

/-! ### One item -/

/-- What an item brings for the two fields that are tested, and what becomes of it. -/
structure ReadFrom (v : Json) (f : Finding) : Prop where
  rule : f.rule ≠ []
  file : f.file ≠ []
  area : f.area ≠ []
  severity : ∃ s : Severity, f.severity = s.name
  locator : ∃ place, (v.field "locator").displayOrEmpty = .ok place ∧
    f.locator = if isPlace place then place else defaultLocator
  fingerprint : ∃ brought said, (v.field "fingerprint").displayOrEmpty = .ok brought ∧
    f.fingerprint = if Fingerprint.isFingerprint brought.asciiLower then brought.asciiLower
      else Fingerprint.ofText said

theorem readFrom_of_ofJson {v : Json} {f : Finding} (h : ofJson v = .ok (some f)) :
    ReadFrom v f := by
  cases v with
  | null | bool | int | float | string | array => exact absurd h (by simp [ofJson])
  | object fields =>
      rw [ofJson] at h
      obtain ⟨rule, -, h⟩ := Outcome.bind_eq_ok.mp h
      obtain ⟨file, -, h⟩ := Outcome.bind_eq_ok.mp h
      by_cases hnamed : (rule.isEmpty || file.isEmpty) = true
      · rw [if_pos hnamed] at h
        exact absurd (Outcome.pure_eq_ok.mp h) (by simp)
      · rw [if_neg hnamed] at h
        obtain ⟨place, hplace, h⟩ := Outcome.bind_eq_ok.mp h
        obtain ⟨evidence, -, h⟩ := Outcome.bind_eq_ok.mp h
        obtain ⟨area, -, h⟩ := Outcome.bind_eq_ok.mp h
        obtain ⟨why, -, h⟩ := Outcome.bind_eq_ok.mp h
        obtain ⟨suggestion, -, h⟩ := Outcome.bind_eq_ok.mp h
        obtain ⟨brought, hbrought, h⟩ := Outcome.bind_eq_ok.mp h
        have hf := Option.some.inj (Outcome.pure_eq_ok.mp h)
        have hnames : rule ≠ [] ∧ file ≠ [] := by simpa using hnamed
        subst hf
        refine ⟨hnames.1, hnames.2, ?_, ⟨_, rfl⟩, ⟨place, hplace, rfl⟩,
          ⟨brought, _, hbrought, rfl⟩⟩
        show (if area.isEmpty then defaultArea else area) ≠ []
        by_cases harea : area.isEmpty = true
        · rw [if_pos harea]
          decide
        · rw [if_neg harea]
          simpa using harea

theorem ReadFrom.severity_mem {v : Json} {f : Finding} (h : ReadFrom v f) :
    f.severity ∈ (["critical", "major", "minor", "info"] : List Text) := by
  obtain ⟨s, hs⟩ := h.severity
  rw [hs]
  cases s <;> decide

/-- Without the line feeds at the end every field has its form. -/
theorem ReadFrom.canonical_withoutFinalFeeds {v : Json} {f : Finding} (h : ReadFrom v f) :
    f.withoutFinalFeeds.Canonical where
  rule := h.rule
  file := h.file
  area := h.area
  severity := h.severity_mem
  locator := by
    obtain ⟨place, -, hplace⟩ := h.locator
    show LinePlace (withoutFinalFeed f.locator) ∨ HunkPlace (withoutFinalFeed f.locator)
    rw [hplace]
    by_cases hok : isPlace place = true
    · rw [if_pos hok]
      exact place_of_isPlace hok
    · rw [if_neg hok]
      exact Or.inl linePlace_default
  fingerprint := by
    obtain ⟨brought, said, -, hprint⟩ := h.fingerprint
    show (withoutFinalFeed f.fingerprint).length = 40 ∧
      ∀ c ∈ withoutFinalFeed f.fingerprint, c ∈ Fingerprint.alphabet
    rw [hprint]
    by_cases hok : Fingerprint.isFingerprint brought.asciiLower = true
    · rw [if_pos hok]
      exact digits_of_isFingerprint hok
    · have hdigits := Fingerprint.ofText_digits said
      rw [if_neg hok, withoutFinalFeed_of_not_mem (noFeed_of_digits hdigits.2)]
      exact hdigits

/-- Without a line feed in the item there is none in the finding. -/
theorem ReadFrom.withoutFinalFeeds_eq {v : Json} {f : Finding} (h : ReadFrom v f)
    (hplace : bringsFeed v "locator" = false) (hprint : bringsFeed v "fingerprint" = false) :
    f.withoutFinalFeeds = f := by
  have hlocator : withoutFinalFeed f.locator = f.locator := by
    obtain ⟨place, hbrought, hf⟩ := h.locator
    have hlast : place.getLast? ≠ some lineFeed := by
      simpa [bringsFeed, hbrought, Except.toOption] using hplace
    refine withoutFinalFeed_of_ne ?_
    rw [hf]
    by_cases hok : isPlace place = true
    · rw [if_pos hok]
      exact hlast
    · rw [if_neg hok]
      decide
  have hfingerprint : withoutFinalFeed f.fingerprint = f.fingerprint := by
    obtain ⟨brought, said, hbrought, hf⟩ := h.fingerprint
    have hlast : brought.getLast? ≠ some lineFeed := by
      simpa [bringsFeed, hbrought, Except.toOption] using hprint
    rw [hf]
    by_cases hok : Fingerprint.isFingerprint brought.asciiLower = true
    · rw [if_pos hok]
      exact withoutFinalFeed_of_ne (getLast?_asciiLower hlast)
    · rw [if_neg hok]
      exact withoutFinalFeed_of_not_mem (noFeed_of_digits (Fingerprint.ofText_digits said).2)
  rw [withoutFinalFeeds, hlocator, hfingerprint]

/-! ### Lists of items -/

/-- Every finding is read from an item. -/
theorem exists_of_mem_ofItems {items : List Json} {fs : List Finding}
    (h : ofItems items = .ok fs) : ∀ f ∈ fs, ∃ v ∈ items, ofJson v = .ok (some f) := by
  induction items generalizing fs with
  | nil =>
      rw [ofItems, Except.ok.injEq] at h
      simp [← h]
  | cons v items ih =>
      obtain ⟨first, hfirst, h⟩ := Outcome.bind_eq_ok.mp h
      obtain ⟨rest, hrest, h⟩ := Outcome.bind_eq_ok.mp h
      intro f hf
      rw [← Outcome.pure_eq_ok.mp h, List.mem_append, Option.mem_toList] at hf
      rcases hf with hf | hf
      · exact ⟨v, by simp, hf ▸ hfirst⟩
      · obtain ⟨w, hw, hread⟩ := ih hrest f hf
        exact ⟨w, by simp [hw], hread⟩

/-- **What normalizing makes of any value.**  Every finding is canonical but for a line feed behind
its place or its fingerprint, and canonical as it stands if the item that it was read from brings
no line feed there. -/
theorem normalize_canonical {raw : Json} {fs : List Finding} (h : normalize raw = .ok fs) :
    ∀ f ∈ fs, f.withoutFinalFeeds.Canonical ∧
      ∃ v ∈ listed raw, ofJson v = .ok (some f) ∧
        (bringsFeed v "locator" = false → bringsFeed v "fingerprint" = false → f.Canonical) := by
  intro f hf
  obtain ⟨v, hv, hread⟩ := exists_of_mem_ofItems h f hf
  have hfrom := readFrom_of_ofJson hread
  have hcanonical := hfrom.canonical_withoutFinalFeeds
  refine ⟨hcanonical, v, hv, hread, fun hplace hprint => ?_⟩
  rw [hfrom.withoutFinalFeeds_eq hplace hprint] at hcanonical
  exact hcanonical

/-- A number for a rule, a list for a file and a word for a severity; the second item brings the
place of a hunk and a fingerprint in capital letters, and the third one has no file. -/
def looseItems : Json :=
  .object [("ai_review", .object [("findings", .array
    [.object [("rule", .int 7), ("file", Json.strings ["a.ts"]), ("severity", .string "blocker"),
        ("locator", .string "line 4"), ("finding", .string "seen")],
      .object [("rule", .string "r"), ("file", .string "b.ts"),
        ("locator", .string "HUNK:@@ -1 +1 @@"),
        ("fingerprint", .string (List.replicate 40 'A'))],
      .object [("rule", .string "r")]])])]

theorem normalize_canonical_loose :
    ∃ fs, normalize looseItems = .ok fs ∧ fs.length = 2 ∧ ∀ f ∈ fs, f.Canonical := by
  have hcount : ((normalize looseItems).toOption.map List.length) = some 2 := by decide +kernel
  have hclean : ∀ v ∈ listed looseItems,
      bringsFeed v "locator" = false ∧ bringsFeed v "fingerprint" = false := by
    have hall : (listed looseItems).all (fun v =>
        !bringsFeed v "locator" && !bringsFeed v "fingerprint") = true := by decide +kernel
    simpa using hall
  obtain ⟨fs, h, hlength⟩ := Outcome.exists_ok_of_toOption hcount
  refine ⟨fs, h, hlength, fun f hf => ?_⟩
  obtain ⟨-, v, hv, -, hcanonical⟩ := normalize_canonical h f hf
  exact hcanonical (hclean v hv).1 (hclean v hv).2

/-- One item brings a place with a line feed behind it, the other one such a fingerprint. -/
def feedItems : Json :=
  .array
    [.object [("rule", .string "r"), ("file", .string "a.ts"), ("locator", .string "L1\n")],
      .object [("rule", .string "r"), ("file", .string "a.ts"),
        ("fingerprint", .string "aaaaaaaaaaaaaaaaaaaaaaaaaaaaaaaaaaaaaaaa\n")]]

/-- **A line feed at the end of a place or of a fingerprint is kept**, so that not every finding is
canonical. -/
theorem normalize_feedItems :
    ∃ f g, normalize feedItems = .ok [f, g] ∧ f.locator = "L1\n" ∧ ¬f.Canonical ∧
      g.fingerprint.length = 41 ∧ ¬g.Canonical := by
  have hplaces : ((normalize feedItems).toOption.map fun fs => fs.map locator)
      = some (["L1\n", "L0"] : List Text) := by decide +kernel
  have hprint : ((normalize feedItems).toOption.bind fun fs =>
      fs.getLast?.map fun g => g.fingerprint.length) = some 41 := by decide +kernel
  obtain ⟨fs, h, hfs⟩ := Outcome.exists_ok_of_toOption hplaces
  match fs, hfs with
  | [f, g], hfs =>
    have hf : f.locator = "L1\n" := (List.cons.inj hfs).1
    have hg : g.fingerprint.length = 41 := by simpa [h, Except.toOption] using hprint
    refine ⟨f, g, h, hf, fun hcanonical => ?_, hg, fun hcanonical => ?_⟩
    · exact noFeed_of_place hcanonical.locator (by rw [hf]; decide)
    · have hlength := hcanonical.fingerprint.1
      omega

end Finding

end PatchReview
