/-
Boundaries are always loaded, and loaded again as they were.

Loading drops what has no name or no globs and forgives the rest, so a boundaries document
is loaded whatever it holds, unless a number in it is too long to be written.  What is
left says something wherever a text is required, and has paths with single slashes.  That
is all that loading asks for, so a rule or a layer that has been loaded once is loaded
without a change from what is written for it.
-/
import PatchReview.Boundary.Load
import PatchReview.Proofs.Boundary.Specifier
import PatchReview.Proofs.Json.Display

namespace PatchReview

open Json (isWritable_field exists_display_eq_ok exists_displayItems_eq_ok)

theorem BoundaryRule.exists_ofJson_eq_ok {v : Json} (h : v.isWritable = true) :
    ∃ found, BoundaryRule.ofJson v = .ok found := by
  have hfield := isWritable_field h
  unfold BoundaryRule.ofJson
  split
  · split
    · exact ⟨none, rfl⟩
    refine Outcome.exists_bind_eq_ok (exists_display_eq_ok (hfield _)) fun _ _ => ?_
    refine Outcome.exists_bind_eq_ok (exists_displayItems_eq_ok (hfield _)) fun _ _ => ?_
    split
    · exact ⟨_, rfl⟩
    · obtain ⟨t, ht⟩ := exists_display_eq_ok (hfield "explain")
      exact ⟨_, by rw [ht]; rfl⟩
  · exact ⟨none, rfl⟩

theorem Layer.exists_ofJson_eq_ok {v : Json} (h : v.isWritable = true) :
    ∃ found, Layer.ofJson v = .ok found := by
  have hfield := isWritable_field h
  unfold Layer.ofJson
  split
  · exact ⟨none, rfl⟩
  refine Outcome.exists_bind_eq_ok (exists_display_eq_ok (hfield _)) fun _ _ => ?_
  exact Outcome.exists_bind_eq_ok (exists_display_eq_ok (hfield _)) fun _ _ => ⟨_, rfl⟩

namespace Boundaries

theorem exists_collect_eq_ok {α : Type} {describe : Json → Except NumeralError (Option α)}
    {items : List Json} (h : ∀ v ∈ items, ∃ found, describe v = .ok found) :
    ∃ out, collect describe items = .ok out := by
  induction items with
  | nil => exact ⟨[], rfl⟩
  | cons v items ih =>
      refine Outcome.exists_bind_eq_ok (h v (by simp)) fun _ _ => ?_
      exact Outcome.exists_bind_eq_ok (ih fun w hw => h w (by simp [hw])) fun _ _ => ⟨_, rfl⟩

/-- **A boundaries document is loaded, whatever it holds**, if its numbers can be written. -/
theorem exists_ofJson_eq_ok {v : Json} (h : v.isWritable = true) :
    ∃ boundaries, Boundaries.ofJson v = .ok boundaries := by
  have hitems := fun key => Json.isWritable_items (isWritable_field h key)
  cases v with
  | null | bool | int | float | string | array => exact ⟨none, rfl⟩
  | object fields =>
      refine Outcome.exists_bind_eq_ok (exists_collect_eq_ok fun w hw =>
        BoundaryRule.exists_ofJson_eq_ok (hitems _ w hw)) fun _ _ => ?_
      exact Outcome.exists_bind_eq_ok (exists_collect_eq_ok fun w hw =>
        Layer.exists_ofJson_eq_ok (hitems _ w hw)) fun _ _ => ⟨_, rfl⟩

end Boundaries

/-! ### Loading what has been loaded -/

/-- What every loaded rule has. -/
structure BoundaryRule.Loaded (rule : BoundaryRule) : Prop where
  name : rule.name ≠ []
  source : rule.source ≠ []
  target : rule.target ≠ []
  explanation : rule.explanation ≠ some []

theorem BoundaryRule.globOf?_ne_nil {v : Json} {pattern : Text} (h : globOf? v = some pattern) :
    pattern ≠ [] := by
  unfold globOf? at h
  split at h
  · rw [← Option.some.inj h]
    exact List.cons_ne_nil _ _
  · exact absurd h (by simp)

theorem BoundaryRule.loaded {v : Json} {rule : BoundaryRule} (h : ofJson v = .ok (some rule)) :
    rule.Loaded := by
  unfold ofJson at h
  split at h
  · rename_i source target hsource htarget
    split at h
    · exact absurd (Outcome.pure_eq_ok.mp h) (by simp)
    rename_i hnamed
    obtain ⟨name, hname, h⟩ := Outcome.bind_eq_ok.mp h
    obtain ⟨allowVia, -, h⟩ := Outcome.bind_eq_ok.mp h
    have hname := Json.display_ne_nil hname (by simpa using hnamed)
    have hsource := globOf?_ne_nil hsource
    have htarget := globOf?_ne_nil htarget
    dsimp only at h
    split at h
    · rw [← Option.some.inj (Outcome.pure_eq_ok.mp h)]
      exact ⟨hname, hsource, htarget, by simp⟩
    · rename_i hfull
      obtain ⟨explanation, hexplanation, h⟩ := Outcome.bind_eq_ok.mp h
      obtain ⟨t, ht, rfl⟩ := Outcome.map_eq_ok.mp hexplanation
      have ht := Json.display_ne_nil ht (by simpa using hfull)
      rw [← Option.some.inj (Outcome.pure_eq_ok.mp h)]
      exact ⟨hname, hsource, htarget, by simpa using ht⟩
  · exact absurd (Except.ok.inj h) (by simp)

theorem BoundaryRule.globOf?_object {pattern : Text} (h : pattern ≠ []) :
    globOf? (.object [("glob", .string pattern)]) = some pattern := by
  cases pattern with
  | nil => exact absurd rfl h
  | cons c t => rfl

/-- **A loaded rule that is written is loaded again.** -/
theorem BoundaryRule.ofJson_toJson {rule : BoundaryRule} (h : rule.Loaded) :
    ofJson rule.toJson = .ok (some rule) := by
  have hsource : globOf? (rule.toJson.field "from") = some rule.source := globOf?_object h.source
  have htarget : globOf? (rule.toJson.field "to") = some rule.target := globOf?_object h.target
  have hname : rule.toJson.field "rule" = .string rule.name := rfl
  have hnamed : (Json.string rule.name).isEmpty = false := by simp [Json.isEmpty, h.name]
  have hallowed : (rule.toJson.field "allowVia").displayItems = .ok rule.allowVia := by
    obtain ⟨name, source, target, allowVia, explanation⟩ := rule
    cases allowVia with
    | nil => cases explanation <;> rfl
    | cons t ts => exact Json.displayItems_strings (t :: ts)
  have hexplained : rule.toJson.field "explain" = Json.ofText? rule.explanation := by
    obtain ⟨name, source, target, allowVia, explanation⟩ := rule
    cases allowVia <;> cases explanation <;> rfl
  rw [ofJson, hsource, htarget]
  simp only [hname, hnamed, hallowed, hexplained, Json.display]
  have hexplanation := h.explanation
  obtain ⟨name, source, target, allowVia, explanation⟩ := rule
  cases explanation with
  | none => rfl
  | some t =>
      have ht : (Json.string t).isEmpty = false := by simpa [Json.isEmpty] using hexplanation
      simp only [Json.ofText?, ht]
      rfl

/-- What every loaded layer has. -/
structure Layer.Loaded (layer : Layer) : Prop where
  name : layer.name ≠ []
  path : layer.path ≠ []
  slashed : Text.slashed layer.path = layer.path

theorem Layer.loaded {v : Json} {layer : Layer} (h : ofJson v = .ok (some layer)) :
    layer.Loaded := by
  unfold ofJson at h
  split at h
  · exact absurd (Outcome.pure_eq_ok.mp h) (by simp)
  rename_i hfull
  rw [Bool.or_eq_true, not_or, Bool.not_eq_true, Bool.not_eq_true] at hfull
  obtain ⟨name, hname, h⟩ := Outcome.bind_eq_ok.mp h
  obtain ⟨path, hpath, h⟩ := Outcome.bind_eq_ok.mp h
  rw [← Option.some.inj (Outcome.pure_eq_ok.mp h)]
  have hpath := Json.display_ne_nil hpath hfull.2
  exact ⟨Json.display_ne_nil hname hfull.1, Text.slashed_ne_nil hpath, Text.slashed_slashed path⟩

/-- **A loaded layer that is written is loaded again.** -/
theorem Layer.ofJson_toJson {layer : Layer} (h : layer.Loaded) :
    ofJson layer.toJson = .ok (some layer) := by
  have hfull : ((layer.toJson.field "name").isEmpty
      || (layer.toJson.field "path").isEmpty) = false := by
    show ((Json.string layer.name).isEmpty || (Json.string layer.path).isEmpty) = false
    simp [Json.isEmpty, h.name, h.path]
  rw [ofJson, hfull]
  refine Outcome.bind_eq_ok.mpr ⟨layer.name, rfl, ?_⟩
  refine Outcome.bind_eq_ok.mpr ⟨layer.path, rfl, ?_⟩
  rw [h.slashed]
  rfl

namespace Boundaries

theorem exists_of_mem_collect {α : Type} {describe : Json → Except NumeralError (Option α)}
    {items : List Json} {out : List α} (h : collect describe items = .ok out) :
    ∀ a ∈ out, ∃ v, describe v = .ok (some a) := by
  induction items generalizing out with
  | nil =>
      rw [← Except.ok.inj h]
      simp
  | cons v items ih =>
      obtain ⟨found, hfound, h⟩ := Outcome.bind_eq_ok.mp h
      obtain ⟨others, hothers, h⟩ := Outcome.bind_eq_ok.mp h
      intro a ha
      rw [← Outcome.pure_eq_ok.mp h, List.mem_append, Option.mem_toList] at ha
      rcases ha with ha | ha
      · exact ⟨v, by rw [hfound, ha]⟩
      · exact ih hothers a ha

/-- What is described by what is written for it is collected as it was. -/
theorem collect_map {α : Type} {describe : Json → Except NumeralError (Option α)}
    {write : α → Json} {l : List α} (h : ∀ a ∈ l, describe (write a) = .ok (some a)) :
    collect describe (l.map write) = .ok l := by
  induction l with
  | nil => rfl
  | cons a l ih =>
      rw [List.map_cons, collect, h a (by simp), ih fun b hb => h b (by simp [hb])]
      rfl

/-- What every loaded document has. -/
structure Loaded (boundaries : Boundaries) : Prop where
  forbidden : ∀ rule ∈ boundaries.forbidden, rule.Loaded
  layers : ∀ layer ∈ boundaries.layers, layer.Loaded

theorem loaded {v : Json} {boundaries : Boundaries} (h : ofJson v = .ok (some boundaries)) :
    boundaries.Loaded := by
  unfold ofJson at h
  split at h
  · obtain ⟨forbidden, hforbidden, h⟩ := Outcome.bind_eq_ok.mp h
    obtain ⟨layers, hlayers, h⟩ := Outcome.bind_eq_ok.mp h
    rw [← Option.some.inj (Outcome.pure_eq_ok.mp h)]
    constructor
    · intro rule hrule
      obtain ⟨w, hw⟩ := exists_of_mem_collect hforbidden rule hrule
      exact BoundaryRule.loaded hw
    · intro layer hlayer
      obtain ⟨w, hw⟩ := exists_of_mem_collect hlayers layer hlayer
      exact Layer.loaded hw
  · exact absurd (Except.ok.inj h) (by simp)

end Boundaries

end PatchReview
