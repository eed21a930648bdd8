/-
Policies that are listed are loaded again.

What `boundaries` lists in JSON is itself a boundaries document, and what is written for a
trigger describes one.  Loading is lenient and writing leaves out what is not there, but
everything that has been loaded once is in the form that loading gives, so neither changes
anything the second time: the forbidden imports come back as they were, and so does a
trigger.  Only the layers are listed in the order of their indices, those of one index as
they stand in the document.
-/
import Mathlib.Data.List.Basic
import PatchReview.Command.Policy
import PatchReview.Proofs.Boundary.Load
import PatchReview.Proofs.Rule.Load
import PatchReview.Proofs.Sorting

namespace PatchReview

namespace Boundaries

/-- The same layers in the order of their indices; layers of one index keep their order. -/
structure SortedByIndex (layers sorted : List Layer) : Prop where
  perm : sorted.Perm layers
  ordered : sorted.Pairwise fun a b => a.index ≤ b.index
  stable : ∀ index, (sorted.filter fun layer => layer.index == index)
    = layers.filter fun layer => layer.index == index

theorem stablySorted_orderedLayers (boundaries : Boundaries) :
    StablySorted Layer.index boundaries.layers boundaries.orderedLayers :=
  stablySorted_mergeSort Layer.index boundaries.layers

theorem sortedByIndex_orderedLayers (boundaries : Boundaries) :
    SortedByIndex boundaries.layers boundaries.orderedLayers where
  perm := (stablySorted_orderedLayers boundaries).perm
  ordered := (stablySorted_orderedLayers boundaries).ordered
  stable index := by
    simpa only [← Bool.beq_eq_decide_eq] using (stablySorted_orderedLayers boundaries).stable index

/-- **Boundaries that are listed are loaded again.** -/
theorem ofJson_listing {boundaries : Boundaries} (h : boundaries.Loaded) (paths : List Text) :
    ofJson (boundaries.listing paths)
      = .ok (some { forbidden := boundaries.forbidden, layers := boundaries.orderedLayers }) := by
  have hforbidden : collect BoundaryRule.ofJson (boundaries.forbidden.map BoundaryRule.toJson)
      = .ok boundaries.forbidden :=
    collect_map fun rule hrule => BoundaryRule.ofJson_toJson (h.forbidden rule hrule)
  have hlayers : collect Layer.ofJson (boundaries.orderedLayers.map Layer.toJson)
      = .ok boundaries.orderedLayers :=
    collect_map fun layer hlayer => Layer.ofJson_toJson
      (h.layers layer ((stablySorted_orderedLayers boundaries).perm.mem_iff.mp hlayer))
  exact Outcome.bind_eq_ok.mpr ⟨_, hforbidden, Outcome.bind_eq_ok.mpr ⟨_, hlayers, rfl⟩⟩

end Boundaries

/-- **A policy that is listed is loaded again.**  From the list that is printed for loaded
boundaries, whatever paths were asked for, the same forbidden imports are loaded in the same order,
and the same layers, sorted by index; and from what is written for a loaded trigger, the same
trigger. -/
theorem policy_reloaded :
    (∀ (document : Json) (boundaries : Boundaries) (paths : List Text),
      Boundaries.ofJson document = .ok (some boundaries) →
        ∃ reloaded, Boundaries.ofJson (boundaries.listing paths) = .ok (some reloaded) ∧
          reloaded.forbidden = boundaries.forbidden ∧
          Boundaries.SortedByIndex boundaries.layers reloaded.layers) ∧
      ∀ (v : Json) (trigger : Trigger), Trigger.ofJson v = .ok (some trigger) →
        Trigger.ofJson trigger.toJson = .ok (some trigger) := by
  constructor
  · intro document boundaries paths h
    exact ⟨_, Boundaries.ofJson_listing (Boundaries.loaded h) paths, rfl,
      Boundaries.sortedByIndex_orderedLayers boundaries⟩
  · intro v trigger h
    exact Trigger.ofJson_toJson (Trigger.typeName_ne_nil h)

/-- Boundaries with a number for a name, a true explanation, a rule without a target, backslashes,
and layers out of order. -/
def looseBoundaries : Json :=
  .object
    [("forbidden", .array
      [.object [("rule", .int 7), ("from", .object [("glob", .string "ui/**")]),
          ("to", .object [("glob", .string "db/**")]), ("explain", .bool true),
          ("allowVia", .array [.null, .string "api"])],
        .object [("rule", .string "r"), ("from", .object [("glob", .string "ui/**")])]]),
      ("layers", .array
        [.object [("name", .string "ui"), ("path", .string "src\\ui//**"), ("index", .int 2)],
          .object [("name", .array [.string "db"]), ("path", .string "db"), ("index", .int 1)],
          .object [("name", .string "app"), ("path", .string "app"), ("index", .int 2)]])]

/-- A trigger of a type that is no text, with signals that are none. -/
def looseTrigger : Json :=
  .object [("type", .int 3), ("signals", .array [.bool false, .string "x"]),
    ("requireSignalMatch", .array [.null]), ("exempt", .string "y")]

theorem policy_reloaded_loose :
    ∃ boundaries trigger, Boundaries.ofJson looseBoundaries = .ok (some boundaries) ∧
      boundaries.layers.map Layer.path = (["src/ui/**", "db", "app"] : List Text) ∧
      Trigger.ofJson looseTrigger = .ok (some trigger) ∧
      (∃ reloaded, Boundaries.ofJson (boundaries.listing ["src/ui/a.ts"]) = .ok (some reloaded) ∧
        reloaded.forbidden = boundaries.forbidden ∧
        Boundaries.SortedByIndex boundaries.layers reloaded.layers) ∧
      Trigger.ofJson trigger.toJson = .ok (some trigger) := by
  have hlayers : ((Boundaries.ofJson looseBoundaries).toOption.map fun found =>
      found.map fun boundaries => boundaries.layers.map Layer.path)
        = some (some (["src/ui/**", "db", "app"] : List Text)) := by decide +kernel
  have htype : ((Trigger.ofJson looseTrigger).toOption.map fun found =>
      found.map Trigger.typeName) = some (some ("3" : Text)) := by decide +kernel
  obtain ⟨_ | boundaries, hboundaries, hpaths⟩ := Outcome.exists_ok_of_toOption hlayers
  · exact absurd hpaths (by simp)
  obtain ⟨_ | trigger, htrigger, hname⟩ := Outcome.exists_ok_of_toOption htype
  · exact absurd hname (by simp)
  exact ⟨boundaries, trigger, hboundaries, Option.some.inj hpaths, htrigger,
    policy_reloaded.1 _ _ _ hboundaries, policy_reloaded.2 _ _ htrigger⟩

end PatchReview
