/-
A report shows every finding once.

The findings are grouped by the severities that they count as, and each group is sorted by
area and file.  Read from top to bottom this is one stable sort of the whole list, the
severity coming first, so no finding is lost, doubled or moved without need, whatever words
stand for their severities.
-/
import Mathlib.Algebra.Ring.Nat
import PatchReview.Proofs.Text.Order
import PatchReview.Report.Human

namespace PatchReview

namespace Severity

/-- The place of a severity among all of them, the gravest first. -/
def place (s : Severity) : Nat := all.idxOf s

theorem pairwise_place : all.Pairwise fun s t => s.place < t.place := by decide

theorem mem_all (s : Severity) : s ∈ all := by
  cases s with
  | critical | major | minor | info => decide

/-- The word over the findings of a severity, behind the escapes for its color and for bold text. -/
def headingWord : Severity → Text
  | critical => "\x1b[31m\x1b[1mCRITICAL"
  | major => "\x1b[33m\x1b[1mMAJOR"
  | minor => "\x1b[36m\x1b[1mMINOR"
  | info => "\x1b[37m\x1b[1mINFO"

/-- The line over so many findings of a severity. -/
def headingLine (s : Severity) (count : Nat) : Text :=
  s.headingWord ++ " (" ++ Text.ofString (toString count) ++ ")\x1b[0m"

end Severity

theorem Decimal.ofNat_eq_toString (n : Nat) : Decimal.ofNat n = Text.ofString (toString n) := by
  rw [ofNat, Text.ofString, show toString n = String.ofList (Nat.toDigits 10 n) from rfl,
    String.toList_ofList]

/-- **A heading is the severity in capital letters and the count.** -/
theorem Severity.heading_eq (s : Severity) (count : Nat) :
    s.heading count = s.headingLine count := by
  have hword : ({ color := some s.color, bold := true } : Style).opening ++ s.name.asciiUpper
      = s.headingWord := by
    cases s <;> decide
  have hreset : (")" : Text) ++ Style.escape 0 = ")\x1b[0m" := by decide
  rw [heading, headingLine, Style.apply, ← hword, ← hreset, Decimal.ofNat_eq_toString]
  simp only [List.append_assoc]

namespace Finding

variable {findings : List Finding}

/-- What findings of one severity are listed by: the area, then the file. -/
def listKey (f : Finding) : List Nat ×ₗ List Nat := toLex (f.area.codes, f.file.codes)

/-- What findings are reported by: the severity that they count as, then the area, then the file. -/
def reportKey (f : Finding) : Nat ×ₗ (List Nat ×ₗ List Nat) := toLex (f.grade.place, f.listKey)

theorem listedBefore_eq : listedBefore = fun f g => decide (f.listKey ≤ g.listKey) := by
  funext f g
  rw [Bool.eq_iff_iff, decide_eq_true_eq, listKey, listKey, Prod.Lex.toLex_le_toLex, listedBefore,
    Text.codes_inj]
  by_cases harea : f.area = g.area
  · rw [if_pos harea, Text.notAfter_iff, harea]
    simp
  · have hcodes : f.area.codes ≠ g.area.codes := fun heq => harea (Text.codes_inj.mp heq)
    rw [if_neg harea, Text.notAfter_iff, hcodes.le_iff_lt]
    simp [harea]

/-- The lines of an entry: the rule and the place, and as far as there is anything to say the first
line of evidence, the reason and the suggestion. -/
def entryLines (f : Finding) : List Text :=
  [("- [" : Text) ++ f.rule ++ "] " ++ f.file ++ ":" ++ f.locator]
    ++ (f.evidence.take 1).map (("   evidence: " : Text) ++ ·)
    ++ ([f.why].filter (· ≠ [])).map (("   why: " : Text) ++ ·)
    ++ ([f.suggestion].filter (· ≠ [])).map (("   follow-up: " : Text) ++ ·)

theorem entry_eq (f : Finding) : f.entry = f.entryLines := by
  obtain ⟨rule, area, severity, file, locator, evidence, why, suggestion, fingerprint⟩ := f
  cases evidence <;> cases why <;> cases suggestion <;> rfl

/-- A part of a report: a heading that counts, and the entries under it. -/
def partLines (part : Severity × List Finding) : List Text :=
  part.1.headingLine part.2.length :: part.2.flatMap entryLines

/-- The severities that occur among some findings, the gravest first. -/
def occurring (findings : List Finding) : List Severity :=
  Severity.all.filter fun s => ∃ f ∈ findings, f.grade = s

theorem mem_occurring {s : Severity} : s ∈ occurring findings ↔ ∃ f ∈ findings, f.grade = s := by
  simp [occurring, Severity.mem_all]

/-- The parts of a report list some findings. -/
structure Lists (parts : List (Severity × List Finding)) (findings : List Finding) : Prop where
  /-- There is one part for each severity that occurs. -/
  severities : parts.map Prod.fst = occurring findings
  /-- A part has findings, and they are of its severity. -/
  graded : ∀ part ∈ parts, part.2 ≠ [] ∧ ∀ f ∈ part.2, f.grade = part.1
  /-- Counted part by part, the findings are as many as there are. -/
  counted : (parts.map fun part => part.2.length).sum = findings.length
  /-- From top to bottom the findings are sorted, and those of one key stand as they did. -/
  sorted : StablySorted reportKey findings (parts.flatMap Prod.snd)

/-! ### Parts -/

/-- The findings of a severity in the order in which they are listed. -/
def underHeading (findings : List Finding) (s : Severity) : List Finding :=
  (ofGrade s findings).mergeSort listedBefore

/-- The parts of a report. -/
def parts (findings : List Finding) : List (Severity × List Finding) :=
  (occurring findings).map fun s => (s, underHeading findings s)

theorem stablySorted_underHeading (findings : List Finding) (s : Severity) :
    StablySorted listKey (ofGrade s findings) (underHeading findings s) := by
  rw [underHeading, listedBefore_eq]
  exact stablySorted_mergeSort listKey _

theorem mem_underHeading {f : Finding} {s : Severity} :
    f ∈ underHeading findings s ↔ f ∈ findings ∧ f.grade = s := by
  rw [(stablySorted_underHeading findings s).perm.mem_iff, ofGrade, List.mem_filter,
    decide_eq_true_eq]

/-- **Sorting each severity for itself is sorting by severity first.** -/
theorem stablySorted_parts (findings : List Finding) :
    StablySorted reportKey findings ((parts findings).flatMap Prod.snd) := by
  rw [parts, List.flatMap_map]
  refine StablySorted.flatMap_groups (Severity.pairwise_place.filter _) (fun f hf => ?_)
    fun s _ => stablySorted_underHeading findings s
  exact mem_occurring.mpr ⟨f, hf, rfl⟩

theorem lists_parts (findings : List Finding) : Lists (parts findings) findings where
  severities := by
    rw [parts, List.map_map]
    exact List.map_id _
  graded part hpart := by
    obtain ⟨s, hs, rfl⟩ := List.mem_map.mp hpart
    obtain ⟨f, hf, hgrade⟩ := mem_occurring.mp hs
    exact ⟨List.ne_nil_of_mem (mem_underHeading.mpr ⟨hf, hgrade⟩),
      fun f hf => (mem_underHeading.mp hf).2⟩
  counted := by
    rw [← (stablySorted_parts findings).perm.length_eq, List.length_flatMap]
  sorted := stablySorted_parts findings

/-! ### Lines -/

/-- What nothing comes of may be left out before it is looked at. -/
theorem flatMap_filter_of_nil {α β : Type} {p : α → Bool} {f : α → List β} {l : List α}
    (h : ∀ a ∈ l, p a = false → f a = []) : l.flatMap f = (l.filter p).flatMap f := by
  induction l with
  | nil => rfl
  | cons a l ih =>
      rw [List.flatMap_cons, ih fun b hb => h b (List.mem_cons_of_mem a hb)]
      cases hp : p a with
      | true => rw [List.filter_cons_of_pos hp, List.flatMap_cons]
      | false => rw [List.filter_cons_of_neg (by simp [hp]), h a (by simp) hp, List.nil_append]

theorem severityLines_of_ne_nil {s : Severity} {fs : List Finding} (h : fs ≠ []) :
    severityLines (s, fs) = s.heading fs.length :: (fs.mergeSort listedBefore).flatMap entry := by
  cases fs with
  | nil => exact absurd rfl h
  | cons f fs => rfl

theorem severityLines_eq {s : Severity} (h : s ∈ occurring findings) :
    severityLines (s, ofGrade s findings) = partLines (s, underHeading findings s) := by
  have hperm := (stablySorted_underHeading findings s).perm
  have hentries : entry = entryLines := funext entry_eq
  obtain ⟨f, hf, hgrade⟩ := mem_occurring.mp h
  have hmem : f ∈ ofGrade s findings := hperm.mem_iff.mp (mem_underHeading.mpr ⟨hf, hgrade⟩)
  rw [severityLines_of_ne_nil (List.ne_nil_of_mem hmem), ← underHeading, Severity.heading_eq,
    partLines, hperm.length_eq, hentries]

/-- The line that counts the findings. -/
def countLine (count : Nat) : Text :=
  "\x1b[1m" ++ Text.ofString (toString count) ++ " finding(s)\x1b[0m"

theorem apply_bold_eq (count : Nat) :
    Style.apply { bold := true } (Decimal.ofNat count ++ " finding(s)") = countLine count := by
  have hbold : ({ bold := true } : Style).opening = "\x1b[1m" := by decide
  have hreset : (" finding(s)" : Text) ++ Style.escape 0 = " finding(s)\x1b[0m" := by decide
  rw [countLine, Style.apply, hbold, ← hreset, Decimal.ofNat_eq_toString]
  simp only [List.append_assoc]

/-- **A report on findings counts them, and lists them part by part.** -/
theorem listLines_eq (h : findings ≠ []) :
    listLines findings = countLine findings.length :: (parts findings).flatMap partLines := by
  have hnone : ∀ s ∈ Severity.all, decide (∃ f ∈ findings, f.grade = s) = false →
      severityLines (s, ofGrade s findings) = [] := by
    intro s _ hs
    have hempty : ofGrade s findings = [] := by
      rw [ofGrade, List.filter_eq_nil_iff]
      simpa using hs
    rw [hempty, severityLines]
  rw [listLines, if_neg (by simpa using h), apply_bold_eq, bySeverity, List.flatMap_map,
    flatMap_filter_of_nil hnone, parts, List.flatMap_map]
  exact congrArg _ (List.flatMap_congr fun s hs => severityLines_eq hs)

end Finding

namespace LlmTask

/-- Some ids are those of the rules that tasks are left for: they rise, so that each is there
once. -/
structure Names (ids : List Text) (tasks : List LlmTask) : Prop where
  rising : ids.Pairwise fun s t => s.codes < t.codes
  mem : ∀ id, id ∈ ids ↔ ∃ task ∈ tasks, task.ruleId = id

/-- The last line of a report that leaves tasks. -/
def lastLine (count : Nat) (ids : List Text) : Text :=
  Text.ofString (toString count) ++ " line(s) deferred to LLM review for: " ++ Text.join ", " ids

theorem names_ruleIds (tasks : List LlmTask) : Names (ruleIds tasks) tasks where
  rising := Text.pairwise_sortedOnce _
  mem id := by rw [ruleIds, Text.mem_sortedOnce, List.mem_map]

end LlmTask

/-- **A report shows every finding once.**  Behind the line that counts the findings stand the
parts that list them, and if tasks are left the last line counts them and names their rules. -/
theorem Review.lines_listing {review : Review} (h : review.findings ≠ []) :
    ∃ parts ids, Finding.Lists parts review.findings ∧ LlmTask.Names ids review.tasks ∧
      review.human = Text.join "\n" review.lines ∧
      review.lines = Finding.countLine review.findings.length :: parts.flatMap Finding.partLines
        ++ if review.tasks = [] then [] else [LlmTask.lastLine review.tasks.length ids] := by
  refine ⟨Finding.parts review.findings, LlmTask.ruleIds review.tasks,
    Finding.lists_parts review.findings, LlmTask.names_ruleIds review.tasks, rfl, ?_⟩
  rw [lines, Finding.listLines_eq h, LlmTask.summary]
  simp only [List.isEmpty_iff, LlmTask.lastLine, Text.commaList, Decimal.ofNat_eq_toString]

/-- A finding of a rule, with a severity, an area and a file. -/
def reportedFinding (rule severity area file : Text) : Finding where
  rule := rule
  area := area
  severity := severity
  file := file
  locator := "L1"
  evidence := ["x", "y"]
  why := []
  suggestion := "fix it"
  fingerprint := []

/-- Two findings of one key around one whose severity is no severity, and two rules with tasks. -/
theorem Review.lines_listing_unknown :
    let first := reportedFinding "a" "critical" "ui" "b.ts"
    let second := reportedFinding "b" "blocker" "ui" "a.ts"
    let third := reportedFinding "c" "critical" "ui" "b.ts"
    let task (id : Text) : LlmTask :=
      { ruleId := id, file := "a.ts", locator := "L1", snippet := [] }
    let review : Review :=
      { findings := [second, first, third], tasks := [task "s", task "r", task "s"] }
    review.findings ≠ [] ∧
      ∃ parts ids, Finding.Lists parts review.findings ∧ LlmTask.Names ids review.tasks ∧
        parts.map Prod.fst = [.critical, .minor] ∧
        review.lines = Finding.countLine 3 :: parts.flatMap Finding.partLines
          ++ [LlmTask.lastLine 3 ids] := by
  intro first second third task review
  have hne : review.findings ≠ [] := by simp [review]
  obtain ⟨parts, ids, hlists, hnames, -, hlines⟩ := Review.lines_listing hne
  exact ⟨hne, parts, ids, hlists, hnames, hlists.severities.trans (by decide), hlines⟩

end PatchReview
