/-
What the boundaries add to a review, and what it depends on.

Behind the findings of the rules stands one finding for every added import and every
boundary rule that forbids it, in the order of the diff and of the boundaries.  Of the
rules document only the ids, areas and severities matter to it: a finding is graded by
the last rule that has its id.  So neither the options nor the triggers of the rules can
change the boundary part, however much they change the rule pass in front of it.
-/
import PatchReview.Proofs.Review.Anchor

namespace PatchReview

/-! ### Rules that differ in their triggers alone -/

/-- Two values that describe the same rule, whatever triggers they give it. -/
inductive Rule.SameApartFromTrigger : Json → Json → Prop
  | same (v : Json) : SameApartFromTrigger v v
  | fields {fields fields' : Json.Fields}
      (h : ∀ key, key ≠ ("trigger" : Text) →
        (Json.object fields).field key = (Json.object fields').field key) :
      SameApartFromTrigger (.object fields) (.object fields')

/-- Two documents that list the same rules, whatever triggers they give them. -/
def RuleSet.SameApartFromTriggers (v w : Json) : Prop :=
  List.Forall₂ Rule.SameApartFromTrigger (v.field "rules").items (w.field "rules").items

/-- A rule without its trigger. -/
def Rule.untriggered (rule : Rule) : Rule := { rule with trigger := none }

theorem Rule.LoadedFrom.untriggered_eq {v w : Json} {rule rule' : Rule}
    (h : ∀ key, key ≠ ("trigger" : Text) → v.field key = w.field key)
    (hv : rule.LoadedFrom v) (hw : rule'.LoadedFrom w) :
    rule.untriggered = rule'.untriggered := by
  have hid := Except.ok.inj (hv.id.symm.trans ((h "id" (by decide)) ▸ hw.id))
  have harea := Except.ok.inj (hv.area.symm.trans ((h "area" (by decide)) ▸ hw.area))
  have hdescription := Except.ok.inj
    (hv.description.symm.trans ((h "description" (by decide)) ▸ hw.description))
  have hseverity : rule.severity = rule'.severity := by
    rw [hv.severity, hw.severity, h "severity" (by decide)]
  have hstatus : rule.status = rule'.status := by
    rw [hv.status, hw.status, h "status" (by decide)]
  have hversion : rule.version = rule'.version := by
    rw [hv.version, hw.version, h "version" (by decide)]
  simp [Rule.untriggered, hid, harea, hdescription, hseverity, hstatus, hversion]

/-- Whether a rule is loaded, and all of it but the trigger, does not depend on the trigger. -/
theorem Rule.SameApartFromTrigger.untriggered_eq {v w : Json} {found found' : Option Rule}
    (h : Rule.SameApartFromTrigger v w) (hv : Rule.ofJson v = .ok found)
    (hw : Rule.ofJson w = .ok found') :
    found.map Rule.untriggered = found'.map Rule.untriggered := by
  cases h with
  | same => rw [Except.ok.inj (hv.symm.trans hw)]
  | fields h =>
      have hid := h "id" (by decide)
      rcases Rule.ofJson_object_eq_ok hv with ⟨hnoId, rfl⟩ | ⟨rule, rfl, hrule⟩
      · rcases Rule.ofJson_object_eq_ok hw with ⟨-, rfl⟩ | ⟨rule', rfl, hrule'⟩
        · rfl
        · rw [hid, hrule'.id] at hnoId
          exact absurd (Except.ok.inj hnoId) hrule'.named
      · rcases Rule.ofJson_object_eq_ok hw with ⟨hnoId, rfl⟩ | ⟨rule', rfl, hrule'⟩
        · rw [← hid, hrule.id] at hnoId
          exact absurd (Except.ok.inj hnoId) hrule.named
        · rw [Option.map_some, Option.map_some, hrule.untriggered_eq h hrule']

theorem RuleSet.untriggered_rulesOf {items items' : List Json} {rules rules' : List Rule}
    (h : List.Forall₂ Rule.SameApartFromTrigger items items') (hrules : rulesOf items = .ok rules)
    (hrules' : rulesOf items' = .ok rules') :
    rules.map Rule.untriggered = rules'.map Rule.untriggered := by
  induction h generalizing rules rules' with
  | nil => rw [Except.ok.inj (hrules.symm.trans hrules')]
  | cons hv hrest ih =>
      obtain ⟨found, hfound, hrules⟩ := Outcome.bind_eq_ok.mp hrules
      obtain ⟨others, hothers, hrules⟩ := Outcome.bind_eq_ok.mp hrules
      obtain ⟨found', hfound', hrules'⟩ := Outcome.bind_eq_ok.mp hrules'
      obtain ⟨others', hothers', hrules'⟩ := Outcome.bind_eq_ok.mp hrules'
      rw [← Outcome.pure_eq_ok.mp hrules, ← Outcome.pure_eq_ok.mp hrules', List.map_append,
        List.map_append, ih hothers hothers', ← Option.toList_map, ← Option.toList_map,
        hv.untriggered_eq hfound hfound']

/-- **Documents that differ in triggers alone load the same rules, triggers apart.** -/
theorem RuleSet.SameApartFromTriggers.untriggered_eq {v w : Json} {set set' : Option RuleSet}
    (h : RuleSet.SameApartFromTriggers v w) (hv : RuleSet.ofJson v = .ok set)
    (hw : RuleSet.ofJson w = .ok set') :
    (RuleSet.loaded set).map Rule.untriggered = (RuleSet.loaded set').map Rule.untriggered :=
  RuleSet.untriggered_rulesOf h (RuleSet.rulesOf_of_ofJson hv) (RuleSet.rulesOf_of_ofJson hw)

namespace BoundaryPass

/-! ### The enumeration -/

/-- Whether a boundary rule forbids a file to import what a specifier names. -/
def forbidden (path specifier : Text) (boundary : BoundaryRule) : Bool :=
  Glob.isMatch boundary.source (Text.slashed path)
    && boundary.allowVia.all (fun glob => !Glob.isMatch glob (Text.normalSpecifier specifier))
    && Glob.isMatch boundary.target (Text.normalSpecifier specifier)

/-- The last rule of an id. -/
def declared (rules : List Rule) (id : Text) : Option Rule :=
  (rules.filter fun rule => rule.id = id).getLast?

/-- The area that a declaration gives to the findings of a boundary rule. -/
def areaOf : Option Rule → Text
  | none => "architecture"
  | some rule => if rule.area = [] then "architecture" else rule.area

/-- The severity that a declaration gives to the findings of a boundary rule. -/
def severityOf : Option Rule → Severity
  | none => .major
  | some rule => rule.severity

/-- The finding on a line that imports what a boundary rule forbids. -/
def gradedFinding (rules : List Rule) (path specifier : Text) (line : AddedLine)
    (boundary : BoundaryRule) : Finding :=
  let id : Text := "boundaries." ++ boundary.name
  Finding.make id (areaOf (declared rules id)) (severityOf (declared rules id)).name path
    (Finding.placeOf line.number)
    ["[" ++ Finding.placeOf line.number ++ "] Forbidden import per boundaries: "
      ++ ([Import.backquote] ++ specifier ++ [Import.backquote])]
    boundary.reason "Import through an allowed adapter/port or public API."

/-- **The boundary part of a review**: section by section, line by line, and for every import on a
line one boundary rule after another. -/
def part (policy : Option Boundaries) (rules : List Rule) (files : List FileDiff) : List Finding :=
  files.flatMap fun file => file.addedLines.flatMap fun line =>
    (Import.specifier? line.text).toList.flatMap fun specifier =>
      ((policy.elim [] Boundaries.forbidden).filter (forbidden file.path specifier)).map
        (gradedFinding rules file.path specifier line)

theorem forbids_eq (boundary : BoundaryRule) (path specifier : Text) :
    boundary.forbids (Text.slashed path) specifier = forbidden path specifier boundary := by
  rw [BoundaryRule.forbids, forbidden, Glob.matchesAny, List.not_any_eq_all_not]

theorem grading_eq (boundary : BoundaryRule) (set : Option RuleSet) :
    boundary.grading set
      = (areaOf (declared (RuleSet.loaded set) ("boundaries." ++ boundary.name)),
          severityOf (declared (RuleSet.loaded set) ("boundaries." ++ boundary.name))) := by
  have hfind : (set.bind fun set => set.find? boundary.findingRule)
      = declared (RuleSet.loaded set) ("boundaries." ++ boundary.name) := by
    cases set with
    | none => rfl
    | some set =>
        simp only [Option.bind_some, RuleSet.find?, beq_eq_decide]
        rw [← List.head?_filter, List.filter_reverse, List.head?_reverse]
        rfl
  rw [BoundaryRule.grading, hfind]
  cases declared (RuleSet.loaded set) ("boundaries." ++ boundary.name) with
  | none => rfl
  | some rule => simp [areaOf, severityOf, BoundaryRule.defaultArea]

theorem findingOn_eq (set : Option RuleSet) (path specifier : Text) (line : AddedLine) :
    findingOn set path specifier line
      = gradedFinding (RuleSet.loaded set) path specifier line := by
  funext boundary
  rw [findingOn, grading_eq]
  rfl

theorem part_eq (boundaries : Boundaries) (set : Option RuleSet) (files : List FileDiff) :
    part (some boundaries) (RuleSet.loaded set) files = findings boundaries set files := by
  have hline : ∀ (file : FileDiff) (line : AddedLine),
      ((Import.specifier? line.text).toList.flatMap fun specifier =>
        (boundaries.forbidden.filter (forbidden file.path specifier)).map
          (gradedFinding (RuleSet.loaded set) file.path specifier line))
        = findingsOn boundaries set file.path line := by
    intro file line
    rw [findingsOn]
    cases Import.specifier? line.text with
    | none => rfl
    | some specifier =>
        have hbroken : boundaries.broken (Text.slashed file.path) specifier
            = boundaries.forbidden.filter (forbidden file.path specifier) :=
          List.filter_congr fun boundary _ => forbids_eq boundary file.path specifier
        simp only [hbroken, findingOn_eq, Option.toList_some, List.flatMap_singleton]
  simp only [part, Option.elim_some, hline]
  rfl

/-- Without a document the boundary part is empty, with one it is its enumeration. -/
theorem boundaryFindings_eq_ok {policy : Option Boundaries} {set : Option RuleSet}
    {files : List FileDiff} {bounded : List Finding}
    (h : Review.boundaryFindings policy set files = .ok bounded) :
    bounded = part policy (RuleSet.loaded set) files := by
  cases policy with
  | none =>
      rw [← Except.ok.inj h]
      simp [part]
  | some boundaries => rw [findings_eq_ok h, part_eq]

/-! ### What the boundary part depends on -/

/-- Grading looks at no trigger. -/
theorem declared_congr {rules rules' : List Rule}
    (h : rules.map Rule.untriggered = rules'.map Rule.untriggered) (id : Text) :
    (declared rules id).map Rule.untriggered = (declared rules' id).map Rule.untriggered := by
  have hmap : ∀ rules : List Rule, (declared rules id).map Rule.untriggered
      = declared (rules.map Rule.untriggered) id := by
    intro rules
    rw [declared, declared, List.filter_map, List.getLast?_map]
    rfl
  rw [hmap, hmap, h]

theorem grade_untriggered (found : Option Rule) :
    areaOf (found.map Rule.untriggered) = areaOf found ∧
      severityOf (found.map Rule.untriggered) = severityOf found := by
  cases found <;> exact ⟨rfl, rfl⟩

/-- What a declaration gives is the same whatever triggers the rules have. -/
theorem grade_congr {rules rules' : List Rule}
    (h : rules.map Rule.untriggered = rules'.map Rule.untriggered) (id : Text) :
    areaOf (declared rules id) = areaOf (declared rules' id) ∧
      severityOf (declared rules id) = severityOf (declared rules' id) := by
  have hdeclared := declared_congr h id
  rw [← (grade_untriggered (declared rules id)).1, ← (grade_untriggered (declared rules id)).2,
    hdeclared]
  exact grade_untriggered (declared rules' id)

theorem grading_congr {set set' : Option RuleSet}
    (h : (RuleSet.loaded set).map Rule.untriggered = (RuleSet.loaded set').map Rule.untriggered)
    (boundary : BoundaryRule) : boundary.grading set = boundary.grading set' := by
  rw [grading_eq, grading_eq, (grade_congr h _).1, (grade_congr h _).2]

/-- Of the rules only the grading matters to the boundaries, whether or not they come to a result. -/
theorem boundaryFindings_congr {set set' : Option RuleSet}
    (h : ∀ boundary : BoundaryRule, boundary.grading set = boundary.grading set')
    (policy : Option Boundaries) (files : List FileDiff) :
    Review.boundaryFindings policy set files = Review.boundaryFindings policy set' files := by
  cases policy with
  | none => rfl
  | some boundaries =>
      have hfinding : ∀ boundary : BoundaryRule, boundary.finding set = boundary.finding set' := by
        intro boundary
        funext path specifier line
        simp only [BoundaryRule.finding, h]
      have hline : boundaries.findingsOn set = boundaries.findingsOn set' := by
        funext path line
        simp only [Boundaries.findingsOn, hfinding]
      have hfile : boundaries.findingsIn set = boundaries.findingsIn set' := by
        funext file
        simp only [Boundaries.findingsIn, hline]
      simp only [Review.boundaryFindings, Boundaries.findings, hfile]

/-- **The boundary part is the same whatever triggers the rules have.** -/
theorem part_congr {rules rules' : List Rule}
    (h : rules.map Rule.untriggered = rules'.map Rule.untriggered) (policy : Option Boundaries)
    (files : List FileDiff) : part policy rules files = part policy rules' files := by
  have hfinding : gradedFinding rules = gradedFinding rules' := by
    funext path specifier line boundary
    simp only [gradedFinding, (grade_congr h _).1, (grade_congr h _).2]
  rw [part, part, hfinding]

end BoundaryPass

namespace Review

/-! ### A whole review -/

/-- A review that has the tasks and the findings of the rules, and more findings behind them. -/
def Extends [Host] (review : Review) (diff : Text) (document : Json) (options : ReviewOptions)
    (more : List Finding) : Prop :=
  ∃ ruled, byRules diff document options = .ok { findings := ruled, tasks := review.tasks } ∧
    review.findings = ruled ++ more

/-- **A review without its steps**: the findings of the rules, the boundary part behind them, and the
tasks. -/
def enumerated [Host] (options : ReviewOptions) (set : Option RuleSet) (policy : Option Boundaries)
    (files : List FileDiff) : Review :=
  let entries := FileDiff.addedByFile files
  let rules := RuleConstraint.ofRules set
  { findings := RulePass.trimmed options entries rules
      ++ BoundaryPass.part policy (RuleSet.loaded set) files
    tasks := (RulePass.deferring rules).flatMap (RulePass.tasksOf entries) }

variable {diff : Text} {document boundaries : Json} {options : ReviewOptions} {review : Review}

/-- A review has read a diff, a rules document and a boundaries document. -/
theorem exists_reads [Host] (h : ofDiff diff document boundaries options = .ok review) :
    ∃ files set policy, FileDiff.parse diff = .ok files ∧ RuleSet.ofJson document = .ok set ∧
      Boundaries.ofJson boundaries = .ok policy := by
  obtain ⟨files, set, policy, -, -, hfiles, hset, hpolicy, -⟩ := ofDiff_eq_ok h
  exact ⟨files, set, policy, hfiles, hset, hpolicy⟩

/-- **A review is its enumeration** from what it has read. -/
theorem eq_enumerated [Host] {files : List FileDiff} {set : Option RuleSet}
    {policy : Option Boundaries} (hfiles : FileDiff.parse diff = .ok files)
    (hset : RuleSet.ofJson document = .ok set)
    (hpolicy : Boundaries.ofJson boundaries = .ok policy)
    (h : ofDiff diff document boundaries options = .ok review) :
    review = enumerated options set policy files := by
  obtain ⟨_, _, _, ruled, bounded, hfiles', hset', hpolicy', hruled, hbounded, hfindings⟩ :=
    ofDiff_eq_ok h
  obtain rfl := Except.ok.inj (hfiles.symm.trans hfiles')
  obtain rfl := Except.ok.inj (hset.symm.trans hset')
  obtain rfl := Except.ok.inj (hpolicy.symm.trans hpolicy')
  obtain ⟨hruled, htasks⟩ := RulePass.applyAll_eq_ok hruled
  obtain ⟨findings, tasks⟩ := review
  simp only at hfindings hruled htasks
  rw [hfindings, hruled, htasks, BoundaryPass.boundaryFindings_eq_ok hbounded]
  rfl

theorem extends_part [Host] (h : ofDiff diff document boundaries options = .ok review) :
    ∃ files set policy, FileDiff.parse diff = .ok files ∧ RuleSet.ofJson document = .ok set ∧
      Boundaries.ofJson boundaries = .ok policy ∧
      review.Extends diff document options
        (BoundaryPass.part policy (RuleSet.loaded set) files) := by
  obtain ⟨files, set, policy, ruled, bounded, hfiles, hset, hpolicy, hruled, hbounded, hfindings⟩ :=
    ofDiff_eq_ok h
  refine ⟨files, set, policy, hfiles, hset, hpolicy, ruled, ?_, ?_⟩
  · exact byRules_eq_ok.mpr ⟨files, set, hfiles, hset, hruled⟩
  · rw [hfindings, BoundaryPass.boundaryFindings_eq_ok hbounded]

/-- **The boundary pass is exact and independent of the rule pass.**  A review has the tasks of the
review by rules alone, and its findings with the boundary part behind them; and every review of the
same diff by the same boundaries has that very part, whatever its options and whatever triggers it
gives to the rules. -/
theorem ofDiff_boundary_part [Host] (h : ofDiff diff document boundaries options = .ok review) :
    ∃ files set policy, FileDiff.parse diff = .ok files ∧ RuleSet.ofJson document = .ok set ∧
      Boundaries.ofJson boundaries = .ok policy ∧
      review.Extends diff document options
        (BoundaryPass.part policy (RuleSet.loaded set) files) ∧
      ∀ document' options' review', RuleSet.SameApartFromTriggers document document' →
        ofDiff diff document' boundaries options' = .ok review' →
          review'.Extends diff document' options'
            (BoundaryPass.part policy (RuleSet.loaded set) files) := by
  obtain ⟨files, set, policy, hfiles, hset, hpolicy, hextends⟩ := extends_part h
  refine ⟨files, set, policy, hfiles, hset, hpolicy, hextends, ?_⟩
  intro document' options' review' hsame h'
  obtain ⟨files', set', policy', hfiles', hset', hpolicy', hextends'⟩ := extends_part h'
  rw [hfiles] at hfiles'
  rw [hpolicy] at hpolicy'
  rw [BoundaryPass.part_congr (hsame.untriggered_eq hset hset'), Except.ok.inj hfiles',
    Except.ok.inj hpolicy']
  exact hextends'

/-- A document that declares the boundary rule of `mixedBoundaries` twice and has one rule more,
with triggers for the last two. -/
def declaredRules (declaration extra : Json.Fields) : Json :=
  .object [("rules", .array
    [.object [("id", .string "boundaries.no-db"), ("area", .string "Layers")],
      .object (("id", .string "boundaries.no-db") :: ("severity", .string "info") :: declaration),
      .object (("id", .string "todo") :: extra)])]

/-- A trigger of an unknown type. -/
def unknownTrigger : Json.Fields := [("trigger", .object [("type", .string "magic")])]

/-- A trigger that asks for a signal. -/
def todoTrigger : Json.Fields :=
  [("trigger", .object
    [("requireSignalMatch", .bool true), ("signals", Json.strings ["TODO"])])]

theorem ofDiff_boundary_part_declared :
    ∃ review review',
      ofDiff RulePass.mixedDiff (declaredRules unknownTrigger todoTrigger) mixedBoundaries {}
        = .ok review ∧
      review.findings.map Finding.severity = (["minor", "minor", "minor", "info"] : List Text) ∧
      RuleSet.SameApartFromTriggers (declaredRules unknownTrigger todoTrigger)
        (declaredRules [] unknownTrigger) ∧
      ofDiff RulePass.mixedDiff (declaredRules [] unknownTrigger) mixedBoundaries
        { strictSignals := true } = .ok review' ∧
      ∃ files set policy, FileDiff.parse RulePass.mixedDiff = .ok files ∧
        RuleSet.ofJson (declaredRules unknownTrigger todoTrigger) = .ok set ∧
        Boundaries.ofJson mixedBoundaries = .ok policy ∧
        review.Extends RulePass.mixedDiff (declaredRules unknownTrigger todoTrigger) {}
          (BoundaryPass.part policy (RuleSet.loaded set) files) ∧
        review'.Extends RulePass.mixedDiff (declaredRules [] unknownTrigger)
          { strictSignals := true } (BoundaryPass.part policy (RuleSet.loaded set) files) := by
  have hseverities : ((ofDiff RulePass.mixedDiff (declaredRules unknownTrigger todoTrigger)
      mixedBoundaries {}).toOption.map fun review => review.findings.map Finding.severity)
        = some (["minor", "minor", "minor", "info"] : List Text) := by decide +kernel
  have hcount : ((ofDiff RulePass.mixedDiff (declaredRules [] unknownTrigger) mixedBoundaries
      { strictSignals := true }).toOption.map fun review => review.findings.length) = some 5 := by
    decide +kernel
  have hsame : RuleSet.SameApartFromTriggers (declaredRules unknownTrigger todoTrigger)
      (declaredRules [] unknownTrigger) := by
    refine List.Forall₂.cons (.same _) (List.Forall₂.cons (.fields fun key hkey => ?_)
      (List.Forall₂.cons (.fields fun key hkey => ?_) List.Forall₂.nil))
    · simp [Json.field, Json.get?, Json.Fields.get?, unknownTrigger, hkey.symm]
    · simp [Json.field, Json.get?, Json.Fields.get?, unknownTrigger, todoTrigger, hkey.symm]
  obtain ⟨review, h, hreview⟩ := Outcome.exists_ok_of_toOption hseverities
  obtain ⟨review', h', -⟩ := Outcome.exists_ok_of_toOption hcount
  obtain ⟨files, set, policy, hfiles, hset, hpolicy, hextends, hothers⟩ := ofDiff_boundary_part h
  exact ⟨review, review', h, hreview, hsame, h', files, set, policy, hfiles, hset, hpolicy,
    hextends, hothers _ _ _ hsame h'⟩

end Review

end PatchReview
