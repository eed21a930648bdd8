/-
Caps trim exactly and fairly.

The findings of a rule are let through one by one, with a count for each file and one
for all of them.  What comes of it can be said without counting along the way: of each
file the first findings are kept, up to one cap, and of those the first ones, up to the
other.  The two caps do not disturb each other, although only findings that were let
through are counted: as long as the total is not reached, a file has let through as many
of its findings as it had, or as many as it may.

The argument is about one finding more at the end.  `trim_append_singleton` says when it
is let through, and the specification and all bounds follow by induction from the end.
-/
import PatchReview.Proofs.Review.Anchor
import PatchReview.Proofs.Review.Parts

namespace PatchReview

namespace ReviewOptions

/-- Options without caps. -/
def uncapped (options : ReviewOptions) : ReviewOptions :=
  { options with capPerFile := none, capTotal := none }

theorem uncapped_uncapped (options : ReviewOptions) : options.uncapped.Uncapped := ⟨rfl, rfl⟩

/-- How many findings a cap lets through; one that is missing or zero bounds nothing. -/
def limit? : Option Int → Option Nat
  | none => none
  | some bound => if bound = 0 then none else some bound.toNat

/-- The first items of a list, as many as there may be. -/
def upTo {α : Type} : Option Nat → List α → List α
  | none, l => l
  | some limit, l => l.take limit

/-- The findings on a file. -/
def countIn (file : Text) (fs : List Finding) : Nat := fs.countP fun f => f.file = file

/-- The findings that are among the first of their files: fewer than `limit` findings on the same
file stand in front of them. -/
def firstInFile (limit : Option Nat) (fs : List Finding) : List Finding :=
  (fs.zipIdx.filter fun item =>
    limit.all fun n => countIn item.1.file (fs.take item.2) < n).map Prod.fst

/-- **What the caps keep of the findings of a rule**: of each file the first ones, and of those the
first ones. -/
def limited (options : ReviewOptions) (fs : List Finding) : List Finding :=
  upTo (limit? options.capTotal) (firstInFile (limit? options.capPerFile) fs)

/-- A cap is reached for a file when so many findings are kept. -/
def IsFull (options : ReviewOptions) (file : Text) (kept : List Finding) : Prop :=
  (∃ n ∈ limit? options.capTotal, n ≤ kept.length) ∨
    ∃ n ∈ limit? options.capPerFile, n ≤ countIn file kept

/-- What a trimmed list of findings has: the findings in their order, no more than the caps let
through, and no fewer. -/
structure Trims (options : ReviewOptions) (full kept : List Finding) : Prop where
  order : kept.Sublist full
  perFile : ∀ n ∈ limit? options.capPerFile, ∀ file, countIn file kept ≤ n
  total : ∀ n ∈ limit? options.capTotal, kept.length ≤ n
  /-- What is kept of the findings in front of a finding stays, and the finding is kept behind it
  unless that reaches a cap. -/
  fair : ∀ front f back, full = front ++ f :: back →
    options.limited front <+: kept ∧
      (options.limited front ++ [f] <+: kept ∨ options.IsFull f.file (options.limited front))

variable {options : ReviewOptions} {file : Text} {f : Finding} {fs : List Finding}

/-! ### One finding more -/

theorem reached_iff {cap : Option Int} {count : Nat} :
    reached cap count = true ↔ ∃ n ∈ limit? cap, n ≤ count := by
  cases cap with
  | none => simp [reached, limit?]
  | some bound => by_cases hzero : bound = 0 <;> simp [reached, limit?, hzero]

theorem countIn_append (file : Text) (fs gs : List Finding) :
    countIn file (fs ++ gs) = countIn file fs + countIn file gs := List.countP_append

theorem countIn_singleton (file : Text) (f : Finding) :
    countIn file [f] = if f.file = file then 1 else 0 := by
  simp [countIn, List.countP_singleton]

/-- Whether a finding is let through depends on what was let through before. -/
theorem trimAfter_append_singleton (options : ReviewOptions) (f : Finding) (fs : List Finding) :
    ∀ kept : List Text, options.trimAfter kept (fs ++ [f])
      = if reached options.capTotal (kept.length + (options.trimAfter kept fs).length) ||
          reached options.capPerFile
            (kept.count f.file + countIn f.file (options.trimAfter kept fs))
        then options.trimAfter kept fs else options.trimAfter kept fs ++ [f] := by
  induction fs with
  | nil =>
      intro kept
      simp only [List.nil_append, trimAfter, List.length_nil, Nat.add_zero, countIn,
        List.countP_nil]
      by_cases htotal : reached options.capTotal kept.length = true
      · simp [htotal]
      · simp [htotal]
  | cons g fs ih =>
      intro kept
      rw [List.cons_append, trimAfter, trimAfter]
      by_cases htotal : reached options.capTotal kept.length = true
      · simp [htotal]
      rw [if_neg htotal, if_neg htotal]
      by_cases hfile : reached options.capPerFile (kept.count g.file) = true
      · rw [if_pos hfile, if_pos hfile, ih kept]
      -- `g` is let through: it is counted among `kept` here and among the result there.
      rw [if_neg hfile, if_neg hfile, ih (g.file :: kept)]
      have hlength : (g.file :: kept).length + (options.trimAfter (g.file :: kept) fs).length
          = kept.length + (g :: options.trimAfter (g.file :: kept) fs).length := by
        simp only [List.length_cons]
        omega
      have hcount : (g.file :: kept).count f.file
            + countIn f.file (options.trimAfter (g.file :: kept) fs)
          = kept.count f.file + countIn f.file (g :: options.trimAfter (g.file :: kept) fs) := by
        simp only [List.count_cons, countIn, List.countP_cons, beq_eq_decide]
        omega
      rw [hlength, hcount]
      split <;> rfl

/-- What is kept of some findings, and of these with one more behind them: that one is kept unless a
cap is reached. -/
def LetsThrough (options : ReviewOptions) (kept kept' : List Finding) (f : Finding) : Prop :=
  (options.IsFull f.file kept ∧ kept' = kept) ∨ (¬options.IsFull f.file kept ∧ kept' = kept ++ [f])

/-- **A finding behind others is let through unless what was let through of them reaches a cap.** -/
theorem trim_append_singleton (options : ReviewOptions) (fs : List Finding) (f : Finding) :
    options.LetsThrough (options.trim fs) (options.trim (fs ++ [f])) f := by
  have hstep := trimAfter_append_singleton options f fs []
  simp only [List.length_nil, List.count_nil, Nat.zero_add] at hstep
  have hfull : (reached options.capTotal (options.trim fs).length ||
        reached options.capPerFile (countIn f.file (options.trim fs))) = true ↔
      options.IsFull f.file (options.trim fs) := by
    rw [Bool.or_eq_true, reached_iff, reached_iff, IsFull]
  by_cases h : options.IsFull f.file (options.trim fs)
  · exact Or.inl ⟨h, hstep.trans (if_pos (hfull.mpr h))⟩
  · exact Or.inr ⟨h, hstep.trans (if_neg (mt hfull.mp h))⟩

/-! ### The first findings of each file -/

/-- A finding behind others is among the first of its file unless enough of them are in front. -/
theorem firstInFile_append_singleton (limit : Option Nat) (fs : List Finding) (f : Finding) :
    firstInFile limit (fs ++ [f])
      = firstInFile limit fs ++ if ∀ n ∈ limit, countIn f.file fs < n then [f] else [] := by
  have hfront : fs.zipIdx.filter (fun item =>
        limit.all fun n => countIn item.1.file ((fs ++ [f]).take item.2) < n)
      = fs.zipIdx.filter fun item =>
          limit.all fun n => countIn item.1.file (fs.take item.2) < n := by
    refine List.filter_congr fun item hmem => ?_
    have hplace : item.2 < fs.length := by simpa using List.snd_lt_of_mem_zipIdx hmem
    rw [List.take_append_of_le_length hplace.le]
  have hlast : (limit.all fun n => countIn f.file ((fs ++ [f]).take fs.length) < n) = true ↔
      ∀ n ∈ limit, countIn f.file fs < n := by
    cases limit <;> simp
  rw [firstInFile, List.zipIdx_append, List.filter_append, List.map_append, hfront, ← firstInFile]
  simp only [List.zipIdx_singleton, Nat.zero_add, List.filter_cons, List.filter_nil, hlast]
  split <;> rfl

/-- Of a file as many findings are among the first as there are, or as there may be. -/
theorem countIn_firstInFile (n : Nat) (file : Text) (fs : List Finding) :
    countIn file (firstInFile (some n) fs) = min (countIn file fs) n := by
  induction fs using List.reverseRecOn with
  | nil => simp [firstInFile, countIn]
  | append_singleton fs f ih =>
      rw [firstInFile_append_singleton, countIn_append, countIn_append, ih, countIn_singleton]
      simp only [Option.mem_some_iff, forall_eq']
      by_cases hfile : f.file = file
      · subst hfile
        by_cases hroom : countIn f.file fs < n
        · rw [if_pos hroom, countIn_singleton, if_pos rfl]
          omega
        · rw [if_neg hroom, if_pos rfl, show countIn f.file [] = 0 from rfl]
          omega
      · have hnone : countIn file (if countIn f.file fs < n then [f] else []) = 0 := by
          split
          · rw [countIn_singleton, if_neg hfile]
          · rfl
        rw [hnone, if_neg hfile, Nat.add_zero, Nat.add_zero]

/-- It makes no difference whether all findings of a file are counted or those that are kept. -/
theorem lt_countIn_firstInFile_iff (limit : Option Nat) (file : Text) (fs : List Finding) :
    (∀ n ∈ limit, countIn file (firstInFile limit fs) < n) ↔ ∀ n ∈ limit, countIn file fs < n := by
  cases limit with
  | none => simp
  | some n =>
      simp only [Option.mem_some_iff, forall_eq', countIn_firstInFile]
      omega

/-! ### The first of them in all -/

/-- Once so many are taken, nothing that follows is. -/
theorem upTo_append_of_le {α : Type} {limit : Option Nat} {n : Nat} {l : List α} (hn : n ∈ limit)
    (h : n ≤ (upTo limit l).length) (more : List α) : upTo limit (l ++ more) = upTo limit l := by
  rw [Option.mem_def.mp hn] at h ⊢
  have hle : n ≤ (l.take n).length := h
  rw [List.length_take] at hle
  exact List.take_append_of_le_length (by omega)

/-- As long as fewer are taken, all are. -/
theorem upTo_of_lt {α : Type} {limit : Option Nat} {l : List α}
    (h : ∀ n ∈ limit, (upTo limit l).length < n) : upTo limit l = l := by
  cases limit with
  | none => rfl
  | some n =>
      have hlt : (l.take n).length < n := h n rfl
      rw [List.length_take] at hlt
      exact List.take_of_length_le (by omega)

/-- One more is taken if fewer than all that may be are there. -/
theorem upTo_append_singleton_of_lt {α : Type} {limit : Option Nat} {l : List α}
    (h : ∀ n ∈ limit, l.length < n) (a : α) : upTo limit (l ++ [a]) = l ++ [a] := by
  cases limit with
  | none => rfl
  | some n =>
      have hlt : l.length < n := h n rfl
      exact List.take_of_length_le (by rw [List.length_append, List.length_singleton]; omega)

/-- **The two truncations keep a finding behind others under the same condition.** -/
theorem limited_append_singleton (options : ReviewOptions) (fs : List Finding) (f : Finding) :
    options.LetsThrough (options.limited fs) (options.limited (fs ++ [f])) f := by
  by_cases htotal : ∃ n ∈ limit? options.capTotal, n ≤ (options.limited fs).length
  · obtain ⟨n, hn, hle⟩ := htotal
    refine Or.inl ⟨Or.inl ⟨n, hn, hle⟩, ?_⟩
    rw [limited, firstInFile_append_singleton]
    exact upTo_append_of_le hn hle _
  have hroom : ∀ n ∈ limit? options.capTotal, (options.limited fs).length < n :=
    fun n hn => Nat.lt_of_not_le fun hle => htotal ⟨n, hn, hle⟩
  have hall : options.limited fs = firstInFile (limit? options.capPerFile) fs := upTo_of_lt hroom
  rw [hall] at hroom ⊢
  rw [limited, firstInFile_append_singleton]
  by_cases hfile : ∀ n ∈ limit? options.capPerFile, countIn f.file fs < n
  · refine Or.inr ⟨?_, ?_⟩
    · rintro (⟨n, hn, hle⟩ | ⟨n, hn, hle⟩)
      · exact absurd hle (Nat.not_le_of_lt (hroom n hn))
      · exact absurd hle (Nat.not_le_of_lt ((lt_countIn_firstInFile_iff _ _ _).mpr hfile n hn))
    · rw [if_pos hfile]
      exact upTo_append_singleton_of_lt hroom f
  · refine Or.inl ⟨Or.inr ?_, ?_⟩
    · rw [← lt_countIn_firstInFile_iff] at hfile
      simpa using hfile
    · rw [if_neg hfile, List.append_nil]
      exact hall

/-! ### The loop and the specification -/

/-- **Counting along the way keeps what the two truncations keep.** -/
theorem trim_eq_limited (options : ReviewOptions) (fs : List Finding) :
    options.trim fs = options.limited fs := by
  induction fs using List.reverseRecOn with
  | nil =>
      cases h : limit? options.capTotal <;> simp [trim, trimAfter, limited, firstInFile, upTo, h]
  | append_singleton fs f ih =>
      have htrim := trim_append_singleton options fs f
      rw [ih] at htrim
      rcases htrim with ⟨hfull, htrim⟩ | ⟨hopen, htrim⟩
      · rcases limited_append_singleton options fs f with ⟨-, hlimited⟩ | ⟨hopen, -⟩
        · rw [htrim, hlimited]
        · exact absurd hfull hopen
      · rcases limited_append_singleton options fs f with ⟨hfull, -⟩ | ⟨-, hlimited⟩
        · exact absurd hfull hopen
        · rw [htrim, hlimited]

/-- What is kept stays when more findings follow. -/
theorem limited_isPrefix (options : ReviewOptions) (fs more : List Finding) :
    options.limited fs <+: options.limited (fs ++ more) := by
  induction more using List.reverseRecOn with
  | nil => rw [List.append_nil]
  | append_singleton more f ih =>
      rw [← List.append_assoc]
      rcases limited_append_singleton options (fs ++ more) f with ⟨-, hlast⟩ | ⟨-, hlast⟩
      · rw [hlast]
        exact ih
      · rw [hlast]
        exact ih.trans (List.prefix_append _ _)

theorem upTo_isPrefix {α : Type} (limit : Option Nat) (l : List α) : upTo limit l <+: l := by
  cases limit with
  | none => exact List.prefix_rfl
  | some n => exact List.take_prefix n l

/-- **Caps trim fairly.** -/
theorem trims_limited (options : ReviewOptions) (fs : List Finding) :
    options.Trims fs (options.limited fs) where
  order := trim_eq_limited options fs ▸ Review.trim_sublist options fs
  perFile := by
    intro n hn file
    have hle := (upTo_isPrefix (limit? options.capTotal)
      (firstInFile (limit? options.capPerFile) fs)).sublist.countP_le (p := fun f => f.file = file)
    rw [Option.mem_def.mp hn] at hle
    have hcount := countIn_firstInFile n file fs
    rw [limited, hn]
    unfold countIn at hcount ⊢
    omega
  total := by
    intro n hn
    rw [limited, Option.mem_def.mp hn]
    exact List.length_take_le n _
  fair := by
    rintro front f back rfl
    have hback := limited_isPrefix options (front ++ [f]) back
    rw [List.append_assoc, List.singleton_append] at hback
    refine ⟨limited_isPrefix options front (f :: back), ?_⟩
    rcases limited_append_singleton options front f with ⟨hfull, -⟩ | ⟨-, hkept⟩
    · exact Or.inr hfull
    · exact Or.inl (hkept ▸ hback)

end ReviewOptions

/-! ### A review with caps and without -/

namespace Review

/-- A review of which the caps keep a part. -/
def capped (options : ReviewOptions) (review : Review) : Review :=
  { review with findings := options.limited review.findings }

variable {diff : Text} {document : Json} {options : ReviewOptions} {review : Review}

/-- **A rule is applied first and trimmed then**: the caps decide neither which lines it reports nor
whether it comes to a result. -/
theorem apply_uncapped [Host] (options : ReviewOptions) (entries : List PathLines)
    (rule : RuleConstraint) :
    rule.apply options entries = capped options <$> rule.apply options.uncapped entries := by
  have hnone : options.limited [] = [] := by rw [← ReviewOptions.trim_eq_limited]; rfl
  have hfindings : rule.findingsIn options.uncapped = rule.findingsIn options := rfl
  unfold RuleConstraint.apply
  rw [hfindings]
  cases rule.trigger.kind? with
  | none => exact congrArg Except.ok (by rw [capped, hnone])
  | some kind =>
      cases kind with
      | llm =>
          cases (rule.scope entries).mapM rule.tasksIn with
          | error e => rfl
          | ok tasks => exact congrArg Except.ok (by rw [capped, hnone])
      | pattern | heuristic | hybrid =>
          cases (rule.scope entries).mapM (rule.findingsIn options) with
          | error e => rfl
          | ok found =>
              refine congrArg Except.ok ?_
              rw [capped, RulePass.trim_eq_self options.uncapped_uncapped,
                ReviewOptions.trim_eq_limited]

/-- **Caps trim exactly and fairly.**  Where a review by rules comes to a result with caps, it does
so without them.  Rule by rule the caps keep, of what the rule comes to without them, the first
findings of each file and of those the first ones, in order and no fewer than they let through; all
tasks stay. -/
theorem byRules_capped [Host] (h : byRules diff document options = .ok review) :
    ∃ files set parts, FileDiff.parse diff = .ok files ∧ RuleSet.ofJson document = .ok set ∧
      (RuleConstraint.ofRules set).mapM
        (fun rule => rule.apply options.uncapped (FileDiff.addedByFile files)) = .ok parts ∧
      byRules diff document options.uncapped = .ok (concat parts) ∧
      review.findings = parts.flatMap (fun part => options.limited part.findings) ∧
      review.tasks = (concat parts).tasks ∧
      ∀ part ∈ parts, options.Trims part.findings (options.limited part.findings) := by
  obtain ⟨files, set, hfiles, hset, h⟩ := byRules_eq_ok.mp h
  obtain ⟨kept, hkept, rfl⟩ := RuleConstraint.applyAll_eq_ok_iff.mp h
  simp only [apply_uncapped options] at hkept
  obtain ⟨parts, hparts, rfl⟩ := Outcome.mapM_map_eq_ok.mp hkept
  refine ⟨files, set, parts, hfiles, hset, hparts, ?_, ?_, ?_, fun part _ => ?_⟩
  · exact byRules_eq_ok.mpr
      ⟨files, set, hfiles, hset, RuleConstraint.applyAll_eq_ok_iff.mpr ⟨parts, hparts, rfl⟩⟩
  · exact List.flatMap_map _ _ parts
  · exact List.flatMap_map _ _ parts
  · exact options.trims_limited part.findings

/-- Three added lines of one file and two of another. -/
def pairDiff : Text := "+++ b/a\n@@ -1 +1,3 @@\n+p\n+q\n+r\n+++ b/b\n@@ -1 +1,2 @@\n+s\n+t"

/-- A rule that reports every added line, and one that hands every added line on. -/
def everyLineRules : Json :=
  .object [("rules", .array
    [.object [("id", .string "all")],
      .object [("id", .string "ask"), ("trigger", .object [("type", .string "llm")])]])]

theorem byRules_capped_twice :
    let options : ReviewOptions := { capPerFile := some 2, capTotal := some 3 }
    ∃ review files set parts, byRules pairDiff everyLineRules options = .ok review ∧
      review.findings.map (fun f => f.file ++ f.locator) = (["aL1", "aL2", "bL1"] : List Text) ∧
      FileDiff.parse pairDiff = .ok files ∧ RuleSet.ofJson everyLineRules = .ok set ∧
      (RuleConstraint.ofRules set).mapM
        (fun rule => rule.apply {} (FileDiff.addedByFile files)) = .ok parts ∧
      byRules pairDiff everyLineRules {} = .ok (concat parts) ∧
      review.findings = parts.flatMap (fun part => options.limited part.findings) ∧
      review.tasks = (concat parts).tasks ∧
      ∀ part ∈ parts, options.Trims part.findings (options.limited part.findings) := by
  intro options
  have hplaces : ((byRules pairDiff everyLineRules options).toOption.map fun review =>
      review.findings.map fun f => f.file ++ f.locator)
        = some (["aL1", "aL2", "bL1"] : List Text) := by decide +kernel
  obtain ⟨review, h, hreview⟩ := Outcome.exists_ok_of_toOption hplaces
  obtain ⟨files, set, parts, hcapped⟩ := byRules_capped h
  exact ⟨review, files, set, parts, h, hreview, hcapped⟩

end Review

end PatchReview
