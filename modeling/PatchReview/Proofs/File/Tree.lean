/-
What saving a file does to a tree.

Saving puts one entry after the other into the tree: folders where nothing stood, on the
way to the file, and then the file itself.  That is said once, as `Saving`, and the rest
is read off it: every other place stays as it was, and the tree stays sound, that is,
whatever stands in it stands in a folder.

Where a path leads does not depend on the tree.  `..` leads to the place one part
shorter, since there are no links, so if a walk arrives at all it arrives at the place
that the path resolves to.
-/
import PatchReview.File.Tree

namespace PatchReview

namespace Path

/-- The place that a path leads to. -/
def place (p workingFolder : Path) : List Text := (resolve workingFolder p).parts

/-- A path to a folder on the way to another path. -/
def IsAbove (q p : Path) : Prop := q.start = p.start ∧ q.parts <+: p.parts.dropLast

theorem isAbove_parent (p : Path) : p.parent.IsAbove p := ⟨rfl, List.prefix_rfl⟩

theorem IsAbove.parent {q p : Path} (h : q.IsAbove p) : q.parent.IsAbove p :=
  ⟨h.1, (List.dropLast_prefix q.parts).trans h.2⟩

/-! ### Climbing -/

theorem climb_append (place first rest : List Text) :
    climb place (first ++ rest) = climb (climb place first) rest := by
  induction first generalizing place with
  | nil => rfl
  | cons part first ih =>
      rw [List.cons_append, climb, climb]
      split
      · exact ih place.dropLast
      · exact ih (place ++ [part])

/-- Names lead down. -/
theorem climb_of_not_mem {place parts : List Text} (h : up ∉ parts) :
    climb place parts = place ++ parts := by
  induction parts generalizing place with
  | nil => exact (List.append_nil place).symm
  | cons part parts ih =>
      have hpart : part ≠ up := fun hup => h (by simp [hup])
      have hrest : up ∉ parts := fun hmem => h (List.mem_cons_of_mem part hmem)
      rw [climb, if_neg hpart, ih hrest, List.append_assoc, List.singleton_append]

/-- No place has a part that leads up. -/
theorem up_not_mem_climb {place : List Text} (parts : List Text) (h : up ∉ place) :
    up ∉ climb place parts := by
  induction parts generalizing place with
  | nil => exact h
  | cons part parts ih =>
      rw [climb]
      by_cases hpart : part = up
      · rw [if_pos hpart]
        exact ih fun hmem => h ((List.dropLast_prefix place).subset hmem)
      · rw [if_neg hpart]
        refine ih fun hmem => ?_
        rcases List.mem_append.mp hmem with hmem | hmem
        · exact h hmem
        · exact hpart (List.mem_singleton.mp hmem).symm

theorem up_not_mem_place (p workingFolder : Path) : up ∉ p.place workingFolder :=
  up_not_mem_climb _ (by simp)

/-- Resolving a path leads to the same place. -/
theorem place_resolve (p workingFolder : Path) :
    (resolve workingFolder p).place workingFolder = p.place workingFolder :=
  climb_of_not_mem (p.up_not_mem_place workingFolder)

theorem place_eq_climb {workingFolder : Path} (h : up ∉ workingFolder.parts) (p : Path) :
    p.place workingFolder = climb (if p.isAbsolute then [] else workingFolder.parts) p.parts := by
  rw [place, resolve, within]
  by_cases habsolute : p.isAbsolute = true
  · rw [if_pos habsolute, if_pos habsolute]
  · rw [if_neg habsolute, if_neg habsolute]
    show climb [] (workingFolder.parts ++ p.parts) = climb workingFolder.parts p.parts
    rw [climb_append, climb_of_not_mem h, List.nil_append]

end Path

namespace FileTree

variable {tree tree' : FileTree} {workingFolder path : Path} {place : List Text}

/-! ### Looking -/

theorem contains_of_read {here : List Text} {bytes : List UInt8}
    (h : tree.read here path = .ok bytes) : tree.contains here path = true := by
  rw [read] at h
  cases hlook : tree.look here path with
  | error flaw =>
      rw [hlook] at h
      exact absurd h (by simp)
  | ok entry =>
      rw [contains, hlook]
      rfl

theorem exists_read_eq_ok {here : List Text} (hthere : tree.contains here path = true)
    (hfile : tree.hasFolder here path = false) : ∃ bytes, tree.read here path = .ok bytes := by
  rw [contains] at hthere
  rw [hasFolder] at hfile
  cases hlook : tree.look here path with
  | error flaw =>
      rw [hlook] at hthere
      exact absurd hthere (by simp [Except.toOption])
  | ok entry =>
      cases entry with
      | folder =>
          rw [hlook] at hfile
          exact absurd hfile (by simp [Except.toOption])
      | file bytes => exact ⟨bytes, by rw [read, hlook]⟩

theorem read_of_not_contains {here : List Text}
    (h : tree.contains here path = false) : ∃ flaw, tree.read here path = .error ⟨flaw, path⟩ := by
  cases hlook : tree.look here path with
  | error flaw => exact ⟨flaw, by rw [read, hlook]⟩
  | ok entry =>
      rw [contains, hlook] at h
      exact absurd h (by simp [Except.toOption])

/-! ### One entry more -/

@[simp] theorem get?_nil (tree : FileTree) : tree.get? [] = some .folder := rfl

/-- An entry changes its own place alone. -/
theorem get?_set (tree : FileTree) {place : List Text} (entry : FileEntry) (h : place ≠ [])
    (p : List Text) :
    (tree.set place entry).get? p = if p = place then some entry else tree.get? p := by
  by_cases hp : p = place
  · subst hp
    rw [if_pos rfl, get?, if_neg h, set]
    simp
  · rw [if_neg hp]
    by_cases hnil : p = []
    · subst hnil
      rfl
    · have hfirst : (place == p) = false := by simpa using Ne.symm hp
      -- An entry of another place is not dropped, so looking for it is not disturbed.
      have hsame : ∀ e : List Text × FileEntry,
          ((e.1 != place) = true ∧ (e.1 == p) = true) ↔ (e.1 == p) = true := by
        intro e
        refine ⟨And.right, fun he => ⟨?_, he⟩⟩
        rw [eq_of_beq he]
        simpa using hp
      rw [get?, if_neg hnil, get?, if_neg hnil, set, List.find?_cons_of_neg (by simp [hfirst]),
        List.find?_filter]
      simp only [hsame, Bool.decide_eq_true]

/-! ### Sound trees -/

/-- Whatever stands in a tree stands in a folder, and so does the working folder, whose parts are
names. -/
structure Sound (tree : FileTree) (workingFolder : Path) : Prop where
  folders : ∀ place part, tree.get? (place ++ [part]) ≠ none → tree.get? place = some .folder
  here : tree.get? workingFolder.parts = some .folder
  named : Path.up ∉ workingFolder.parts

/-- Soundness can be checked entry by entry. -/
theorem sound_of_entries (hentries : ∀ e ∈ tree.entries, tree.get? e.1.dropLast = some .folder)
    (here : tree.get? workingFolder.parts = some .folder)
    (named : Path.up ∉ workingFolder.parts) : tree.Sound workingFolder := by
  refine ⟨fun place part h => ?_, here, named⟩
  rw [get?, if_neg (by simp)] at h
  cases hfound : tree.entries.find? fun e => e.1 == place ++ [part] with
  | none => simp [hfound] at h
  | some e =>
      have hplace : e.1 = place ++ [part] := by simpa using List.find?_some hfound
      have hfolder := hentries e (List.mem_of_find?_eq_some hfound)
      rw [hplace, List.dropLast_concat] at hfolder
      exact hfolder

/-- A place at which an entry can be put: the root, or a place in a folder. -/
def Open (tree : FileTree) (place : List Text) : Prop :=
  place = [] ∨ tree.get? place.dropLast = some .folder

theorem Sound.open_of_get? (h : tree.Sound workingFolder) (hplace : tree.get? place ≠ none) :
    tree.Open place := by
  by_cases hnil : place = []
  · exact Or.inl hnil
  · refine Or.inr (h.folders place.dropLast (place.getLast hnil) ?_)
    rw [List.dropLast_concat_getLast hnil]
    exact hplace

/-- What stands somewhere has folders all the way up. -/
theorem Sound.folder_of_append (h : tree.Sound workingFolder) {rest : List Text} (hne : rest ≠ [])
    (hplace : tree.get? (place ++ rest) ≠ none) : tree.get? place = some .folder := by
  induction rest generalizing place with
  | nil => exact absurd rfl hne
  | cons part rest ih =>
      cases rest with
      | nil => exact h.folders place part hplace
      | cons next rest =>
          have hbelow : tree.get? (place ++ [part]) = some .folder := by
            refine ih (by simp) ?_
            rw [List.append_assoc]
            exact hplace
          exact h.folders place part (by rw [hbelow]; simp)

/-- An entry in a folder, where no folder stood, leaves a tree sound. -/
theorem Sound.set (h : tree.Sound workingFolder) (hopen : tree.Open place)
    (hfree : tree.get? place ≠ some .folder) (entry : FileEntry) :
    (tree.set place entry).Sound workingFolder := by
  have hne : place ≠ [] := fun hnil => hfree (by rw [hnil, get?_nil])
  have hfolder : ∀ p, tree.get? p = some .folder →
      (tree.set place entry).get? p = some .folder := by
    intro p hp
    have hpne : p ≠ place := fun heq => hfree (heq ▸ hp)
    rw [get?_set tree entry hne, if_neg hpne]
    exact hp
  refine ⟨fun p part hp => ?_, hfolder _ h.here, h.named⟩
  refine hfolder p ?_
  rw [get?_set tree entry hne] at hp
  by_cases heq : p ++ [part] = place
  · rcases hopen with hnil | hparent
    · exact absurd hnil hne
    · rw [← heq, List.dropLast_concat] at hparent
      exact hparent
  · rw [if_neg heq] at hp
    exact h.folders p part hp

/-! ### Walking -/

/-- A walk that arrives does so at the place that its parts lead to. -/
theorem walk_eq_ok {parts start : List Text} (h : tree.walk start parts = .ok place) :
    place = Path.climb start parts := by
  induction parts generalizing start with
  | nil => exact (Except.ok.inj h).symm
  | cons part parts ih =>
      rw [walk] at h
      split at h
      · rw [Path.climb]
        by_cases hpart : part = Path.up
        · rw [if_pos hpart] at h ⊢
          exact ih h
        · rw [if_neg hpart] at h ⊢
          exact ih h
      · exact absurd h (by simp)
      · exact absurd h (by simp)

/-- A walk through a sound tree arrives in a folder. -/
theorem Sound.open_of_walk (hsound : tree.Sound workingFolder) {parts start : List Text}
    (hstart : tree.Open start) (h : tree.walk start parts = .ok place) : tree.Open place := by
  induction parts generalizing start with
  | nil => exact Except.ok.inj h ▸ hstart
  | cons part parts ih =>
      rw [walk] at h
      split at h
      · rename_i hfolder
        refine ih ?_ h
        by_cases hpart : part = Path.up
        · rw [if_pos hpart]
          -- The folder above the start is there as well, since the start stands in it.
          rcases hstart with hnil | habove
          · exact Or.inl (by rw [hnil]; rfl)
          · exact hsound.open_of_get? (by rw [habove]; simp)
        · rw [if_neg hpart]
          exact Or.inr (by rw [List.dropLast_concat]; exact hfolder)
      · exact absurd h (by simp)
      · exact absurd h (by simp)

/-- A walk to something that stands in a sound tree arrives. -/
theorem Sound.walk_of_get? (hsound : tree.Sound workingFolder) {parts start : List Text}
    (hnames : Path.up ∉ parts) (h : tree.get? (start ++ parts) ≠ none) :
    tree.walk start parts = .ok (start ++ parts) := by
  induction parts generalizing start with
  | nil => rw [List.append_nil]; rfl
  | cons part parts ih =>
      have hpart : part ≠ Path.up := fun hup => hnames (by simp [hup])
      have hfolder : tree.get? start = some .folder := hsound.folder_of_append (by simp) h
      rw [walk, hfolder]
      simp only [if_neg hpart]
      rw [ih (fun hmem => hnames (List.mem_cons_of_mem part hmem))
        (by rw [List.append_assoc]; exact h), List.append_assoc]
      rfl

theorem Sound.locate_eq_ok (hsound : tree.Sound workingFolder)
    (h : tree.locate workingFolder.parts path = .ok place) :
    place = path.place workingFolder ∧ tree.Open place := by
  refine ⟨?_, hsound.open_of_walk ?_ h⟩
  · rw [Path.place_eq_climb hsound.named]
    exact walk_eq_ok h
  · by_cases habsolute : path.isAbsolute = true
    · rw [if_pos habsolute]
      exact Or.inl rfl
    · rw [if_neg habsolute]
      exact hsound.open_of_get? (by rw [hsound.here]; simp)

/-- A resolved path leads to what stands at its place. -/
theorem Sound.contains_resolve (hsound : tree.Sound workingFolder)
    (h : tree.get? (path.place workingFolder) ≠ none) :
    tree.contains workingFolder.parts (Path.resolve workingFolder path) = true := by
  have hwalk : tree.walk [] (path.place workingFolder) = .ok (path.place workingFolder) :=
    hsound.walk_of_get? (path.up_not_mem_place workingFolder) h
  have hlocate : tree.locate workingFolder.parts (Path.resolve workingFolder path)
      = .ok (path.place workingFolder) := hwalk
  obtain ⟨entry, hentry⟩ := Option.ne_none_iff_exists'.mp h
  have hlook : tree.look workingFolder.parts (Path.resolve workingFolder path) = .ok entry := by
    rw [look, hlocate]
    simp only [bind, Except.bind, hentry]
  rw [contains, hlook]
  rfl

/-! ### Saving -/

/-- What can become of a tree while a file is saved at a path. -/
inductive Saving (workingFolder path : Path) : FileTree → FileTree → Prop
  | unchanged (tree : FileTree) : Saving workingFolder path tree tree
  /-- A folder on the way to the file, where nothing stood. -/
  | folder {before after : FileTree} {q : Path} (h : Saving workingFolder path before after)
      (above : q.IsAbove path) (isOpen : after.Open (q.place workingFolder))
      (free : after.get? (q.place workingFolder) = none) :
      Saving workingFolder path before (after.set (q.place workingFolder) .folder)
  /-- The file, where no folder stood. -/
  | file {before after : FileTree} (bytes : List UInt8)
      (h : Saving workingFolder path before after)
      (isOpen : after.Open (path.place workingFolder))
      (free : after.get? (path.place workingFolder) ≠ some .folder) :
      Saving workingFolder path before (after.set (path.place workingFolder) (.file bytes))

namespace Saving

variable {before after final : FileTree}

theorem trans (h : Saving workingFolder path before after)
    (h' : Saving workingFolder path after final) : Saving workingFolder path before final := by
  induction h' with
  | unchanged => exact h
  | folder _ above isOpen free ih => exact folder ih above isOpen free
  | file bytes _ isOpen free ih => exact file bytes ih isOpen free

/-- **Saving keeps a tree sound.** -/
theorem sound (h : Saving workingFolder path before after) (hsound : before.Sound workingFolder) :
    after.Sound workingFolder := by
  induction h with
  | unchanged => exact hsound
  | folder _ _ isOpen free ih => exact ih.set isOpen (by rw [free]; simp) .folder
  | file bytes _ isOpen free ih => exact ih.set isOpen free (.file bytes)

/-- **Saving changes the place of the file, unless a folder stands there, and places on the way
there at which nothing stood.**  At these stands a folder then. -/
theorem frame (h : Saving workingFolder path before after) (place : List Text) :
    after.get? place = before.get? place ∨
      (place = path.place workingFolder ∧ before.get? place ≠ some .folder ∧
        ∃ bytes, after.get? place = some (.file bytes)) ∨
      ((∃ q : Path, q.IsAbove path ∧ place = q.place workingFolder) ∧
        before.get? place = none ∧ after.get? place = some .folder) := by
  induction h with
  | unchanged => exact Or.inl rfl
  | @folder after q _ above _ free ih =>
      have hne : q.place workingFolder ≠ [] := by
        intro hnil
        rw [hnil, get?_nil] at free
        exact absurd free (by simp)
      rw [get?_set _ _ hne]
      by_cases hplace : place = q.place workingFolder
      · rw [if_pos hplace]
        -- Nothing stands here just before, so nothing has stood here at the beginning.
        rcases ih with hsame | ⟨-, -, bytes, hfile⟩ | ⟨-, -, hfolder⟩
        · rw [hplace, free] at hsame
          exact Or.inr (Or.inr ⟨⟨q, above, hplace⟩, by rw [hplace]; exact hsame.symm, rfl⟩)
        · rw [hplace, free] at hfile
          exact absurd hfile (by simp)
        · rw [hplace, free] at hfolder
          exact absurd hfolder (by simp)
      · rw [if_neg hplace]
        exact ih
  | file bytes _ _ free ih =>
      have hne : path.place workingFolder ≠ [] := by
        intro hnil
        rw [hnil, get?_nil] at free
        exact absurd rfl free
      rw [get?_set _ _ hne]
      by_cases hplace : place = path.place workingFolder
      · rw [if_pos hplace]
        refine Or.inr (Or.inl ⟨hplace, fun hfolder => ?_, bytes, rfl⟩)
        -- A folder that stood here at the beginning would stand here still.
        rcases ih with hsame | ⟨-, hno, -⟩ | ⟨-, hnone, -⟩
        · rw [hplace] at hsame hfolder
          exact free (hsame.trans hfolder)
        · exact hno hfolder
        · rw [hnone] at hfolder
          exact absurd hfolder (by simp)
      · rw [if_neg hplace]
        exact ih

end Saving

/-- Making a folder on the way is a part of saving. -/
theorem Sound.saving_ensureFolder (hsound : tree.Sound workingFolder) {q : Path}
    (habove : q.IsAbove path) (h : tree.ensureFolder workingFolder.parts q = .ok tree') :
    Saving workingFolder path tree tree' := by
  unfold ensureFolder at h
  split at h
  · rename_i made hmade
    have hmade : tree.makeFolder workingFolder.parts q = .ok tree' := by
      rw [hmade, Except.ok.inj h]
    unfold makeFolder at hmade
    cases hlocate : tree.locate workingFolder.parts q with
    | error flaw =>
        rw [hlocate] at hmade
        exact absurd hmade (by simp [bind, Except.bind])
    | ok place =>
        obtain ⟨hplace, hopen⟩ := hsound.locate_eq_ok hlocate
        subst hplace
        rw [hlocate] at hmade
        simp only [bind, Except.bind] at hmade
        cases hfree : tree.get? (q.place workingFolder) with
        | some entry => simp [hfree] at hmade
        | none =>
            rw [hfree] at hmade
            rw [← Except.ok.inj hmade]
            exact .folder (.unchanged tree) habove hopen hfree
  · split at h
    · rw [← Except.ok.inj h]
      exact .unchanged tree
    · exact absurd h (by simp)

/-- Making all folders on the way is a part of saving, be it finished or not. -/
theorem Sound.saving_ensureFolders (hsound : tree.Sound workingFolder) {q : Path}
    (habove : q.IsAbove path) (depth : Nat) :
    Saving workingFolder path tree (tree.ensureFolders workingFolder.parts q depth).1 := by
  induction depth generalizing q with
  | zero =>
      unfold ensureFolders
      split
      · rename_i made hmade
        exact hsound.saving_ensureFolder habove hmade
      · exact .unchanged tree
  | succ depth ih =>
      unfold ensureFolders
      split
      · rename_i made hmade
        exact hsound.saving_ensureFolder habove hmade
      · split
        · have hparents := ih habove.parent
          split
          · rename_i parents e hsome
            rw [hsome] at hparents
            exact hparents
          · rename_i parents hnone
            rw [hnone] at hparents
            split
            · rename_i made hmade
              exact hparents.trans ((hparents.sound hsound).saving_ensureFolder habove hmade)
            · exact hparents
        · exact .unchanged tree

/-- **What comes of saving a file**, be it finished or not. -/
theorem Sound.saving_save (hsound : tree.Sound workingFolder) (path : Path) (bytes : List UInt8) :
    Saving workingFolder path tree (tree.save workingFolder.parts path bytes).1 := by
  have hparents := hsound.saving_ensureFolders (Path.isAbove_parent path) path.parts.length
  unfold save
  split
  · rename_i parents e hsome
    rw [hsome] at hparents
    exact hparents
  · rename_i parents hnone
    rw [hnone] at hparents
    split
    · rename_i written hwritten
      unfold write at hwritten
      split at hwritten
      · exact absurd hwritten (by simp)
      · rename_i place hlocate
        obtain ⟨hplace, hopen⟩ := (hparents.sound hsound).locate_eq_ok hlocate
        subst hplace
        split at hwritten
        · exact absurd hwritten (by simp)
        · rename_i hfree
          rw [← Except.ok.inj hwritten]
          exact .file bytes hparents hopen hfree
    · exact hparents

end FileTree

end PatchReview
