/-
The layer of a path.

Layers are folders, and of those that hold a path the one with the longest written path is
taken.  That this is the deepest one takes two facts.  Folders that hold one path are nested,
so the longer of two roots stands inside the shorter one.  And a root inside another one is
longer by a slash and a name at least, while a written path is longer than its root by one
slash at most: so a slash at the end of a path never decides between two folders.
-/
import PatchReview.Proofs.Boundary.Load
import PatchReview.Proofs.Glob.Doubled

namespace PatchReview

open CodePoint (lineFeed)
open Glob (slash AtOrUnder Unspecial)

/-! ### Nested places -/

/-- Of two places that hold one path, the longer one is at or under the shorter one. -/
theorem Glob.AtOrUnder.nested {s t path : Text} (hs : AtOrUnder s path) (ht : AtOrUnder t path)
    (h : s.length ≤ t.length) : AtOrUnder s t := by
  obtain ⟨rest, rfl⟩ := List.prefix_of_prefix_length_le hs.isPrefix ht.isPrefix h
  obtain ⟨more, hmore⟩ := ht.isPrefix
  rcases hs with rfl | ⟨below, rfl⟩
  · obtain ⟨rfl, -⟩ : rest = [] ∧ more = [] := by simpa [List.append_assoc] using hmore
    exact Or.inl (List.append_nil _)
  · rw [List.append_assoc, List.append_cancel_left_eq] at hmore
    cases rest with
    | nil => exact Or.inl (List.append_nil s)
    | cons c rest => exact Or.inr ⟨rest, by rw [(List.cons.inj hmore).1]⟩

/-- A place under another one that does not end in a slash is longer by a slash and a name. -/
theorem Glob.AtOrUnder.length_add_two_le {s t : Text} (h : AtOrUnder s t) (hne : t ≠ s)
    (hlast : t.getLast? ≠ some slash) : s.length + 2 ≤ t.length := by
  obtain ⟨below, rfl⟩ := h.resolve_left hne
  cases below with
  | nil => exact absurd (by simp) hlast
  | cons c below => simp

/-! ### The folder of a layer -/

namespace Layer

variable {layer : Layer} {path : Text}

/-- A path is the folder of a layer or stands below it. -/
def Contains (layer : Layer) (path : Text) : Prop := AtOrUnder layer.root path

theorem getLast?_root (layer : Layer) : layer.root.getLast? ≠ some slash := by
  intro hlast
  have hnot := List.head?_dropWhile_not (· == CodePoint.ofChar '/') layer.path.reverse
  rw [root, Text.dropEndWhile, List.getLast?_reverse] at hlast
  rw [hlast] at hnot
  exact absurd hnot (by decide)

theorem Loaded.isSlashed (h : layer.Loaded) : Text.Slashed layer.path :=
  h.slashed ▸ Text.slashed_spec layer.path

/-- What is written behind the folder of a layer is one slash at most. -/
theorem path_eq_root_or (h : Text.Slashed layer.path) :
    layer.path = layer.root ∨ layer.path = layer.root ++ [slash] := by
  have hsplit : layer.path
      = layer.root ++ (layer.path.reverse.takeWhile (· == CodePoint.ofChar '/')).reverse := by
    rw [root, Text.dropEndWhile, ← List.reverse_append, List.takeWhile_append_dropWhile,
      List.reverse_reverse]
  have hslashes : ∀ c ∈ layer.path.reverse.takeWhile (· == CodePoint.ofChar '/'), c = slash := by
    intro c hc
    simpa [slash] using List.all_eq_true.mp List.all_takeWhile c hc
  generalize layer.path.reverse.takeWhile (· == CodePoint.ofChar '/') = slashes at hsplit hslashes
  cases slashes with
  | nil => exact Or.inl (by simpa using hsplit)
  | cons c slashes =>
      rw [hslashes c (by simp)] at hsplit
      cases slashes with
      | nil => exact Or.inr hsplit
      | cons d rest =>
          rw [hslashes d (by simp)] at hsplit
          refine absurd ⟨layer.root ++ rest.reverse, [], ?_⟩ h.single
          rw [hsplit]
          simp [Text.ofString, slash]

theorem length_path_le (h : Text.Slashed layer.path) :
    layer.path.length ≤ layer.root.length + 1 := by
  rcases path_eq_root_or h with heq | heq
  · rw [← heq]
    exact Nat.le_succ _
  · rw [heq]
    simp

theorem length_root_le (layer : Layer) : layer.root.length ≤ layer.path.length := by
  have hsuffix := List.dropWhile_suffix (· == CodePoint.ofChar '/') (l := layer.path.reverse)
  simpa [root, Text.dropEndWhile] using hsuffix.length_le

/-- Read as a glob, a path without wildcards matches itself alone, and that is a place in the
layer. -/
theorem contains_of_isMatch (hslashed : Text.Slashed layer.path) (hplain : Unspecial layer.path)
    (hpath : lineFeed ∉ path) (h : Glob.isMatch layer.path path = true) : layer.Contains path := by
  have htokens : Glob.tokens layer.path = layer.path.map .literal :=
    Glob.tokensFrom_unspecial hplain [] true
  rw [Glob.isMatch, htokens, Glob.accepts_literals_iff hpath] at h
  rw [h]
  rcases path_eq_root_or hslashed with heq | heq
  · exact Or.inl heq
  · exact Or.inr ⟨[], heq⟩

/-- **A layer without wildcards holds what is in its folder.** -/
theorem holds_iff (hslashed : Text.Slashed layer.path) (hplain : Unspecial layer.path)
    (hpath : lineFeed ∉ path) : layer.holds path = true ↔ layer.Contains path := by
  have hstart : path.startsWith (layer.root ++ "/") = true
      ↔ ∃ below, path = layer.root ++ slash :: below := by
    rw [Text.startsWith_iff]
    constructor
    · rintro ⟨below, rfl⟩
      exact ⟨below, by simp [Text.ofString, slash]⟩
    · rintro ⟨below, rfl⟩
      exact ⟨below, by simp [Text.ofString, slash]⟩
  rw [holds, Bool.or_eq_true, Bool.or_eq_true, beq_iff_eq, hstart]
  constructor
  · rintro ((hglob | hroot) | hbelow)
    · exact contains_of_isMatch hslashed hplain hpath hglob
    · exact Or.inl hroot
    · exact Or.inr hbelow
  · rintro (hroot | hbelow)
    · exact Or.inl (Or.inr hroot)
    · exact Or.inr hbelow

/-- Of two layers that hold one path, the one with the longer written path has the longer root. -/
theorem length_root_le_of_length_path_le {other : Layer} (hslashed : Text.Slashed layer.path)
    (hlayer : layer.Contains path) (hother : other.Contains path)
    (h : other.path.length ≤ layer.path.length) : other.root.length ≤ layer.root.length := by
  by_contra hlonger
  have hunder : AtOrUnder layer.root other.root :=
    hlayer.nested hother (Nat.le_of_not_le hlonger)
  have hne : other.root ≠ layer.root := fun heq => hlonger (by rw [heq])
  have hgap := hunder.length_add_two_le hne other.getLast?_root
  have hwritten := length_path_le hslashed
  have hroot := other.length_root_le
  omega

end Layer

/-! ### The longest path -/

namespace Boundaries

/-- The longest layer is one of those that were looked at, and none of them is longer. -/
theorem longest_eq_some {best : Option Layer} {layers : List Layer} {layer : Layer}
    (h : longest best layers = some layer) :
    (layer ∈ best ∨ layer ∈ layers) ∧ (∀ b ∈ best, b.path.length ≤ layer.path.length) ∧
      ∀ l ∈ layers, l.path.length ≤ layer.path.length := by
  fun_induction longest best layers with
  | case1 best =>
      refine ⟨Or.inl h, fun b hb => ?_, by simp⟩
      rw [Option.some.inj (hb.symm.trans h)]
  | case2 first rest ih =>
      obtain ⟨hmem, hfirst, hrest⟩ := ih h
      refine ⟨Or.inr ?_, by simp, List.forall_mem_cons.mpr ⟨hfirst first rfl, hrest⟩⟩
      rcases hmem with heq | hmem
      · exact List.mem_cons.mpr (Or.inl (Option.some.inj heq).symm)
      · exact List.mem_cons_of_mem first hmem
  | case3 first rest b hlt ih =>
      obtain ⟨hmem, hfirst, hrest⟩ := ih h
      have hle := hfirst first rfl
      refine ⟨Or.inr ?_, ?_, List.forall_mem_cons.mpr ⟨hle, hrest⟩⟩
      · rcases hmem with heq | hmem
        · exact List.mem_cons.mpr (Or.inl (Option.some.inj heq).symm)
        · exact List.mem_cons_of_mem first hmem
      · intro b' hb'
        obtain rfl := Option.some.inj hb'
        omega
  | case4 first rest b hnot ih =>
      obtain ⟨hmem, hbest, hrest⟩ := ih h
      have hle := hbest b rfl
      refine ⟨hmem.imp_right (List.mem_cons_of_mem first), hbest, ?_⟩
      refine List.forall_mem_cons.mpr ⟨?_, hrest⟩
      omega

theorem longest_eq_none_iff {best : Option Layer} {layers : List Layer} :
    longest best layers = none ↔ best = none ∧ layers = [] := by
  fun_induction longest best layers with
  | case1 best => simp
  | case2 first rest ih => simp [ih]
  | case3 first rest b hlt ih => simp [ih]
  | case4 first rest b hnot ih => simp [ih]

/-- A layer is the deepest one that holds a path: the folder of every layer that holds it is at or
above the folder of this one, and none of them has a longer root. -/
structure Deepest (boundaries : Boundaries) (path : Text) (layer : Layer) : Prop where
  mem : layer ∈ boundaries.layers
  contains : layer.Contains path
  nested : ∀ other ∈ boundaries.layers, other.Contains path → AtOrUnder other.root layer.root
  noLonger : ∀ other ∈ boundaries.layers, other.Contains path →
    other.root.length ≤ layer.root.length

/-- The layers that are compared are those that contain the path. -/
theorem mem_filter_holds {boundaries : Boundaries} {path : Text} {layer : Layer}
    (hloaded : boundaries.Loaded) (hplain : ∀ layer ∈ boundaries.layers, Unspecial layer.path)
    (hpath : lineFeed ∉ path) :
    layer ∈ boundaries.layers.filter (fun layer => layer.holds path)
      ↔ layer ∈ boundaries.layers ∧ layer.Contains path := by
  rw [List.mem_filter]
  refine and_congr_right fun hmem => ?_
  exact Layer.holds_iff (hloaded.layers layer hmem).isSlashed (hplain layer hmem) hpath

/-- **The deepest layer wins.**  For loaded layers whose paths have no wildcards, a path without
line feeds has no layer exactly when no folder of a layer holds it, and otherwise it has the deepest
one of those that do. -/
theorem layerOf_deepest {document : Json} {boundaries : Boundaries}
    (hload : Boundaries.ofJson document = .ok (some boundaries))
    (hplain : ∀ layer ∈ boundaries.layers, Unspecial layer.path) {path : Text}
    (hpath : lineFeed ∉ path) :
    (boundaries.layerOf path = none ↔
      ∀ layer ∈ boundaries.layers, ¬layer.Contains (Text.slashed path)) ∧
      ∀ layer, boundaries.layerOf path = some layer →
        boundaries.Deepest (Text.slashed path) layer := by
  have hloaded := loaded hload
  have hslashed : lineFeed ∉ Text.slashed path := fun hmem =>
    (Text.mem_of_mem_slashed hmem).elim hpath (by decide)
  have hmem : ∀ layer, _ ↔ _ := fun layer =>
    @mem_filter_holds boundaries (Text.slashed path) layer hloaded hplain hslashed
  constructor
  · rw [layerOf, longest_eq_none_iff, List.eq_nil_iff_forall_not_mem]
    simp only [hmem, true_and, not_and]
  · intro layer h
    obtain ⟨hfound, -, hlongest⟩ := longest_eq_some h
    obtain ⟨hlayer, hcontains⟩ := (hmem layer).mp (hfound.resolve_left (by simp))
    have hnoLonger : ∀ other ∈ boundaries.layers, other.Contains (Text.slashed path) →
        other.root.length ≤ layer.root.length := by
      intro other hother hcontained
      exact Layer.length_root_le_of_length_path_le (hloaded.layers layer hlayer).isSlashed
        hcontains hcontained (hlongest other ((hmem other).mpr ⟨hother, hcontained⟩))
    refine ⟨hlayer, hcontains, fun other hother hcontained => ?_, hnoLonger⟩
    exact hcontained.nested hcontains (hnoLonger other hother hcontained)

/-- A layer at the root, one that ends in a slash, and one below it that is written with
backslashes. -/
def nestedLayers : Json :=
  let layer (name path : Text) : Json := .object [("name", .string name), ("path", .string path)]
  .object [("layers", .array [layer "ui" "src\\ui", layer "src" "src//", layer "all" "/"])]

/-- A path in two of the layers has the deeper one, and one beside them has none. -/
theorem layerOf_deepest_nested :
    let ui : Layer := { name := "ui", path := "src/ui", index := 0 }
    let src : Layer := { name := "src", path := "src/", index := 0 }
    let all : Layer := { name := "all", path := "/", index := 0 }
    let boundaries : Boundaries := { layers := [ui, src, all] }
    Boundaries.ofJson nestedLayers = .ok (some boundaries) ∧
      (∀ layer ∈ boundaries.layers, Unspecial layer.path) ∧
      lineFeed ∉ Text.ofString "src\\ui//a.ts" ∧ lineFeed ∉ Text.ofString "srcs/a.ts" ∧
      boundaries.Deepest "src/ui/a.ts" ui ∧
      ∀ layer ∈ boundaries.layers, ¬layer.Contains "srcs/a.ts" := by
  intro ui src all boundaries
  have hload : Boundaries.ofJson nestedLayers = .ok (some boundaries) := by rfl
  have hplain : ∀ layer ∈ boundaries.layers, Unspecial layer.path := by decide
  have hinside : lineFeed ∉ Text.ofString "src\\ui//a.ts" := by decide
  have hbeside : lineFeed ∉ Text.ofString "srcs/a.ts" := by decide
  refine ⟨hload, hplain, hinside, hbeside, ?_, ?_⟩
  · exact (layerOf_deepest hload hplain hinside).2 ui (by decide +kernel)
  · exact (layerOf_deepest hload hplain hbeside).1.mp (by decide +kernel)

end Boundaries

end PatchReview
