/-
The bytes behind a fingerprint identify a finding.

A fingerprint is the digest of four texts with a line feed between neighbours.  The first
of them, the rule, may hold line feeds of its own, and its id may be any text of a policy.
The other three never do in a review: a path, a place and a quotation are made of parts of
one line of the diff.  So the three last line feeds are those between the texts, the texts
can be told apart again, and the bytes of a text tell the text, lone surrogates included.
What two findings with the same fingerprint can differ in, as long as no two byte strings
have one digest, is their grading alone.
-/
import PatchReview.Proofs.Boundary.Import
import PatchReview.Proofs.Diff.Numbering
import PatchReview.Proofs.Number.Decimal
import PatchReview.Proofs.Review.Anchor
import PatchReview.Proofs.Review.BoundaryPart
import PatchReview.Proofs.Text.Utf8

namespace PatchReview

open CodePoint (lineFeed)

/-- What a finding is known by. -/
structure FindingKey where
  rule : Text
  file : Text
  locator : Text
  firstLine : Text
deriving DecidableEq, Repr

namespace FindingKey

/-- The bytes whose digest is the fingerprint. -/
def bytes (key : FindingKey) : List UInt8 :=
  Utf8.encode (Fingerprint.identity key.rule key.file key.locator key.firstLine)

/-- All texts but the rule are on one line. -/
structure Unbroken (key : FindingKey) : Prop where
  file : lineFeed ∉ key.file
  locator : lineFeed ∉ key.locator
  firstLine : lineFeed ∉ key.firstLine

/-- **The bytes tell the key.** -/
theorem bytes_inj {key key' : FindingKey} (h : key.Unbroken) (h' : key'.Unbroken) :
    key.bytes = key'.bytes ↔ key = key' := by
  refine ⟨fun hbytes => ?_, fun hkey => hkey ▸ rfl⟩
  have hidentity := Utf8.encode_injective hbytes
  have hfeed : ("\n" : Text) = [lineFeed] := rfl
  simp only [Fingerprint.identity, hfeed, ← List.append_cons] at hidentity
  -- From the last line feed backwards: what stands behind it has none of its own.
  obtain ⟨hfront, hfirstLine⟩ := Text.append_cons_inj h.firstLine h'.firstLine hidentity
  obtain ⟨hfront, hlocator⟩ := Text.append_cons_inj h.locator h'.locator hfront
  obtain ⟨hrule, hfile⟩ := Text.append_cons_inj h.file h'.file hfront
  obtain ⟨rule, file, locator, firstLine⟩ := key
  simp only at hrule hfile hlocator hfirstLine
  rw [hrule, hfile, hlocator, hfirstLine]

end FindingKey

/-- What a finding is known by: its rule, its file, its place and its first line of evidence. -/
def Finding.key (f : Finding) : FindingKey :=
  { rule := f.rule, file := f.file, locator := f.locator, firstLine := f.evidence.head?.getD [] }

/-! ### Parts of one line -/

section

variable {files : List FileDiff} {line : AddedLine} {f : Finding}

theorem FileDiff.Adds.noFeed {path : Text} (hunbroken : ∀ file ∈ files, file.Unbroken)
    (h : FileDiff.Adds files path line) : lineFeed ∉ path ∧ lineFeed ∉ line.text := by
  obtain ⟨file, hfile, rfl, hline⟩ := h
  exact ⟨(hunbroken file hfile).path, (hunbroken file hfile).texts line hline⟩

theorem AddedLine.LocatedAt.noFeed {place : Text} (h : line.LocatedAt place) :
    lineFeed ∉ place := by
  obtain ⟨n, -, rfl⟩ := h
  intro hfeed
  rcases List.mem_append.mp hfeed with hfeed | hfeed
  · exact absurd hfeed (by decide)
  · exact absurd (Decimal.isDigit_of_mem_ofNat _ hfeed) (by decide)

/-- A quote has no code point but those of its line and the ellipsis. -/
theorem AddedLine.noFeed_quote (h : lineFeed ∉ line.text) : lineFeed ∉ line.quote := by
  rw [AddedLine.quote]
  split
  · exact h
  · rw [List.mem_append]
    rintro (hfeed | hfeed)
    · exact h (List.mem_of_mem_take hfeed)
    · exact absurd hfeed (by decide)

theorem Review.QuotesLine.noFeed (h : Review.QuotesLine line f) (hlocator : lineFeed ∉ f.locator)
    (htext : lineFeed ∉ line.text) : lineFeed ∉ f.key.firstLine := by
  have hquote := AddedLine.noFeed_quote htext
  have hfirst : f.key.firstLine
      = "[" ++ f.locator ++ "] " ++ ("Matched signal: \"" ++ line.quote ++ "\"") := by
    rw [Finding.key, show f.evidence = _ from h]
    rfl
  rw [hfirst]
  simp only [List.mem_append, not_or]
  exact ⟨⟨⟨by decide, hlocator⟩, by decide⟩, ⟨by decide, hquote⟩, by decide⟩

theorem Review.QuotesImport.noFeed (h : Review.QuotesImport line f)
    (hlocator : lineFeed ∉ f.locator) (htext : lineFeed ∉ line.text) :
    lineFeed ∉ f.key.firstLine := by
  obtain ⟨specifier, hspecifier, hevidence⟩ := h
  have hquoted : lineFeed ∉ specifier :=
    fun hfeed => htext ((Import.specifier?_isInfix hspecifier).subset hfeed)
  have hfirst : f.key.firstLine = "[" ++ f.locator ++ "] Forbidden import per boundaries: "
      ++ ([Import.backquote] ++ specifier ++ [Import.backquote]) := by
    rw [Finding.key, hevidence]
    rfl
  rw [hfirst]
  simp only [List.mem_append, not_or]
  exact ⟨⟨⟨by decide, hlocator⟩, by decide⟩, ⟨by decide, hquoted⟩, by decide⟩

end

namespace Review

variable {diff : Text} {document boundaries : Json} {options : ReviewOptions} {review : Review}

/-- **Only the rule of a finding may hold line feeds.**  Its file, its place and its evidence, of which
there always is a first line, are made of parts of one line of the diff. -/
theorem unbroken_of_mem_findings [Host] (h : ofDiff diff document boundaries options = .ok review) :
    ∀ f ∈ review.findings, f.evidence.head? = some f.key.firstLine ∧ f.key.Unbroken := by
  obtain ⟨files, set, policy, ruled, bounded, hfiles, hset, -, hruled, hbounded, hfindings⟩ :=
    ofDiff_eq_ok h
  have hsound := FileDiff.sound_of_parse hfiles
  have hunbroken := FileDiff.unbroken_of_parse hfiles
  intro f hf
  have hquotes : ∃ line, f.Anchored files line ∧ (QuotesLine line f ∨ QuotesImport line f) := by
    rw [hfindings, List.mem_append] at hf
    rcases hf with hf | hf
    · obtain ⟨line, hanchored, hquotes⟩ := anchored_of_mem_ruled hsound hset hruled f hf
      exact ⟨line, hanchored, .inl hquotes⟩
    · obtain ⟨line, hanchored, hquotes⟩ := anchored_of_mem_bounded hsound hbounded f hf
      exact ⟨line, hanchored, .inr hquotes⟩
  obtain ⟨line, hanchored, hquotes⟩ := hquotes
  obtain ⟨hpath, htext⟩ := hanchored.adds.noFeed hunbroken
  have hplace := hanchored.place.noFeed
  have hfirst : lineFeed ∉ f.key.firstLine :=
    hquotes.elim (fun hline => hline.noFeed hplace htext)
      (fun himport => himport.noFeed hplace htext)
  obtain ⟨rest, hevidence⟩ := hanchored.evidence
  refine ⟨?_, hpath, hplace, hfirst⟩
  rw [Finding.key, hevidence]
  rfl

/-- The fingerprint of a finding is the digest of the bytes of its key. -/
theorem fingerprint_of_mem_findings [Host]
    (h : ofDiff diff document boundaries options = .ok review) :
    ∀ f ∈ review.findings, f.fingerprint = Sha1.hex f.key.bytes := by
  obtain ⟨files, set, policy, ruled, bounded, -, -, -, hruled, hbounded, hfindings⟩ :=
    ofDiff_eq_ok h
  intro f hf
  rw [hfindings, List.mem_append] at hf
  rcases hf with hf | hf
  · obtain ⟨rule, -, path, line, -, rfl⟩ := exists_of_mem_ruled hruled f hf
    rfl
  · cases policy with
    | none => rw [← Except.ok.inj hbounded] at hf; simp at hf
    | some policy =>
        rw [BoundaryPass.findings_eq_ok hbounded] at hf
        obtain ⟨file, -, line, -, specifier, boundary, -, rfl⟩ :=
          BoundaryPass.exists_of_mem_findings hf
        rfl

/-- **The bytes behind a fingerprint identify a finding.**  Keys that have line feeds in their rules
at most have the same bytes only if they are the same, whatever code points they hold; and of any
two findings, in whatever reviews they are, the fingerprints are the digests of such keys. -/
theorem fingerprint_bytes_identify [Host] :
    (∀ key key' : FindingKey, key.Unbroken → key'.Unbroken →
      (key.bytes = key'.bytes ↔ key = key')) ∧
    ∀ {diff diff' : Text} {document document' boundaries boundaries' : Json}
      {options options' : ReviewOptions} {review review' : Review},
      ofDiff diff document boundaries options = .ok review →
      ofDiff diff' document' boundaries' options' = .ok review' →
      ∀ f ∈ review.findings, ∀ g ∈ review'.findings,
        f.fingerprint = Sha1.hex f.key.bytes ∧ g.fingerprint = Sha1.hex g.key.bytes ∧
          (f.key.bytes = g.key.bytes ↔ f.rule = g.rule ∧ f.file = g.file ∧ f.locator = g.locator ∧
            f.evidence.head? = g.evidence.head?) := by
  refine ⟨fun key key' => FindingKey.bytes_inj, fun h h' f hf g hg => ?_⟩
  obtain ⟨hfirst, hunbroken⟩ := unbroken_of_mem_findings h f hf
  obtain ⟨hfirst', hunbroken'⟩ := unbroken_of_mem_findings h' g hg
  refine ⟨fingerprint_of_mem_findings h f hf, fingerprint_of_mem_findings h' g hg, ?_⟩
  rw [FindingKey.bytes_inj hunbroken hunbroken', hfirst, hfirst', Option.some_inj]
  simp only [Finding.key, FindingKey.mk.injEq]

/-- A document with one rule of that id, which asks for a signal. -/
def signalRules (id : Text) : Json :=
  .object [("rules", .array [.object (("id", .string id) :: todoTrigger)])]

/-- A line feed and U+1F600. -/
def wholeId : Text := [lineFeed, ⟨0x1F600, by decide⟩]

/-- A line feed and the two surrogates that U+1F600 is split into. -/
def splitId : Text := [lineFeed, ⟨0xD83D, by decide⟩, ⟨0xDE00, by decide⟩]

/-- What the finding of that rule in `RulePass.mixedDiff` is known by. -/
def todoKey (id : Text) : FindingKey :=
  { rule := id, file := "a.ts", locator := "L1"
    firstLine := "[L1] Matched signal: \"TODO x\"" }

theorem fingerprint_bytes_identify_surrogates :
    ∃ review review' f g,
      ofDiff RulePass.mixedDiff (signalRules wholeId) .null {} = .ok review ∧
      ofDiff RulePass.mixedDiff (signalRules splitId) .null {} = .ok review' ∧
      f ∈ review.findings ∧ g ∈ review'.findings ∧
      f.fingerprint = Sha1.hex f.key.bytes ∧ g.fingerprint = Sha1.hex g.key.bytes ∧
      f.key.bytes ≠ g.key.bytes ∧ f.rule ≠ g.rule ∧ f.file = g.file ∧ f.locator = g.locator ∧
      f.evidence.head? = g.evidence.head? ∧
      (todoKey wholeId).Unbroken ∧ (todoKey splitId).Unbroken ∧
      ((todoKey wholeId).bytes = (todoKey splitId).bytes ↔ todoKey wholeId = todoKey splitId) := by
  have hunbroken : ∀ id, (todoKey id).Unbroken :=
    fun id => ⟨(by decide : lineFeed ∉ ("a.ts" : Text)), (by decide : lineFeed ∉ ("L1" : Text)),
      (by decide : lineFeed ∉ ("[L1] Matched signal: \"TODO x\"" : Text))⟩
  have hkeys : ∀ id ∈ [wholeId, splitId],
      ((ofDiff RulePass.mixedDiff (signalRules id) .null {}).toOption.map fun review =>
        review.findings.map fun f => (f.key, f.evidence.head?))
        = some [(todoKey id, some (todoKey id).firstLine)] := by decide +kernel
  obtain ⟨review, h, hreview⟩ := Outcome.exists_ok_of_toOption (hkeys wholeId (by simp))
  obtain ⟨review', h', hreview'⟩ := Outcome.exists_ok_of_toOption (hkeys splitId (by simp))
  obtain ⟨f, hf, hfound⟩ := List.map_eq_singleton_iff.mp hreview
  obtain ⟨g, hg, hfound'⟩ := List.map_eq_singleton_iff.mp hreview'
  obtain ⟨hkey, hfirst⟩ := Prod.mk.inj hfound
  obtain ⟨hkey', hfirst'⟩ := Prod.mk.inj hfound'
  have hmem : f ∈ review.findings := by simp [hf]
  have hmem' : g ∈ review'.findings := by simp [hg]
  have hrules : f.rule ≠ g.rule := by
    have hrule : f.rule = wholeId := congrArg FindingKey.rule hkey
    have hrule' : g.rule = splitId := congrArg FindingKey.rule hkey'
    rw [hrule, hrule']
    decide
  obtain ⟨hprint, hprint', hbytes⟩ := fingerprint_bytes_identify.2 h h' f hmem g hmem'
  refine ⟨review, review', f, g, h, h', hmem, hmem', hprint, hprint',
    fun hsame => hrules (hbytes.mp hsame).1, hrules, ?_, ?_, hfirst.trans hfirst'.symm,
    hunbroken wholeId, hunbroken splitId,
    fingerprint_bytes_identify.1 _ _ (hunbroken wholeId) (hunbroken splitId)⟩
  · exact (congrArg FindingKey.file hkey).trans (congrArg FindingKey.file hkey').symm
  · exact (congrArg FindingKey.locator hkey).trans (congrArg FindingKey.locator hkey').symm

end Review

end PatchReview
