/-
Which file a configuration comes from.

A configuration is looked for in one place after another, and the first file that is there
decides, be it valid or not.  So of all that a file tree holds only one entry matters: what
stands at the path that decides.  `reads_congr` says so for a single file; the rest is
finding out which file that is.

Only the project file may be passed over, and only when it has no table of its own for the
configuration, or an empty one.  An empty file of higher precedence is not passed over: it
is a configuration that leaves everything out.
-/
import PatchReview.Config.Load
import PatchReview.Proofs.File.Tree
import PatchReview.Proofs.Outcome

namespace PatchReview

namespace Config

/-- Where a configuration is looked for: in a repository of a file tree. -/
structure Site where
  files : FileTree
  workingFolder : Path
  repository : Path

namespace Site

/-- The folder that the path of the repository leads to. -/
def folder (s : Site) : Path := Path.resolve s.workingFolder s.repository

/-- What stands at a path, if anything does. -/
def found? (s : Site) (path : Path) : Option FileEntry :=
  (s.files.look s.workingFolder.parts path).toOption

/-- What stands in the repository under a name, if anything does. -/
def own (s : Site) (name : Text) : Option FileEntry := s.found? (s.folder.child name)

/-- The configuration that is found. -/
def load (s : Site) (named : Option Path) : Except ConfigError Config :=
  Config.load s.files s.workingFolder s.repository named

/-- The configuration that a file gives. -/
def reads (s : Site) (path : Path) : Except ConfigError Config :=
  readFile s.files s.workingFolder path

/-- Neither of the two files that are made for the configuration is there. -/
structure Bare (s : Site) : Prop where
  noDotFile : s.own ".diff-sentinel.toml" = none
  noPlainFile : s.own "diff-sentinel.toml" = none

/-- A file holds a TOML document. -/
def Holds (s : Site) (path : Path) (document : Toml.Fields) : Prop :=
  ∃ bytes text, s.found? path = some (.file bytes) ∧ Utf8.decode bytes = .ok text ∧
    Toml.read text = .ok document

/-- The file that decides: the one that is named, or else the first that is there. -/
def decider? (s : Site) : Option Path → Option Path
  | some path => some (s.folder.within path)
  | none => ((fileNames ++ [projectFile]).map s.folder.child).find? fun path =>
      (s.found? path).isSome

/-- A project file without a table for the configuration, or with an empty one, is passed over. -/
structure PassesOver (s : Site) (path : Path) : Prop where
  bare : s.Bare
  table : readTable s.files s.workingFolder path = .ok []
  reads : s.reads path = .ok { source := some path }
  load : s.load none = .ok {}

end Site

/-- No tool table of a document holds anything about the configuration. -/
def Untabled (document : Toml.Fields) : Prop :=
  ∀ tools, document.get? "tool" = some (.table tools) →
    ∀ name ∈ toolNames, ∀ table, Toml.Fields.get? name tools = some (.table table) → table = []

/-! ### One file -/

namespace Site

variable {s t : Site} {path : Path} {entry : FileEntry}

theorem contains_eq (s : Site) (path : Path) :
    s.files.contains s.workingFolder.parts path = (s.found? path).isSome := rfl

theorem look_of_found? (h : s.found? path = some entry) :
    s.files.look s.workingFolder.parts path = .ok entry := Outcome.eq_ok_of_toOption h

theorem read_of_found? {bytes : List UInt8} (h : s.found? path = some (.file bytes)) :
    s.files.read s.workingFolder.parts path = .ok bytes := by
  rw [FileTree.read, look_of_found? h]

/-- The table that a file gives depends on what stands at its path. -/
theorem readTable_congr (hs : s.found? path = some entry) (ht : t.found? path = some entry) :
    readTable s.files s.workingFolder path = readTable t.files t.workingFolder path := by
  have hread : s.files.read s.workingFolder.parts path
      = t.files.read t.workingFolder.parts path := by
    rw [FileTree.read, FileTree.read, look_of_found? hs, look_of_found? ht]
  rw [readTable, readTable, hread]

/-- **What a file gives depends on what stands at its path.** -/
theorem reads_congr (hs : s.found? path = some entry) (ht : t.found? path = some entry) :
    s.reads path = t.reads path := by
  rw [reads, reads, readFile, readFile, readTable_congr hs ht]

/-- Where nothing stands nothing is read. -/
theorem exists_found?_of_reads {config : Config} (h : s.reads path = .ok config) :
    ∃ entry, s.found? path = some entry := by
  obtain ⟨table, htable, -⟩ := Outcome.bind_eq_ok.mp h
  obtain ⟨bytes, hbytes, -⟩ := Outcome.bind_eq_ok.mp htable
  have hthere := FileTree.contains_of_read (Outcome.mapError_eq_ok.mp hbytes)
  exact Option.isSome_iff_exists.mp hthere

theorem toolTable?_of_untabled {document : Toml.Fields} (h : Untabled document) :
    (toolTable? document).getD [] = [] := by
  unfold toolTable?
  split
  · rename_i tools htools
    cases hfound : toolNames.findSome? fun name =>
        (Toml.Fields.get? name tools).bind Toml.fields? with
    | none => rfl
    | some table =>
        obtain ⟨name, hname, htable⟩ := List.exists_of_findSome?_eq_some hfound
        obtain ⟨v, hv, hfields⟩ := Option.bind_eq_some_iff.mp htable
        cases v with
        | table fields =>
            obtain rfl := Option.some.inj hfields
            exact h tools htools name hname _ hv
        | string | integer | float | boolean | dateTime | array =>
            exact absurd hfields (by simp [Toml.fields?])
  · rfl

/-- A project file without a table for the configuration gives an empty one. -/
theorem readTable_of_untabled {document : Toml.Fields} (hname : path.name = projectFile)
    (hholds : s.Holds path document) (huntabled : Untabled document) :
    readTable s.files s.workingFolder path = .ok [] := by
  obtain ⟨bytes, text, hentry, hdecode, hdocument⟩ := hholds
  have htable : tableOf path document = [] := by
    rw [tableOf, if_pos hname]
    exact toolTable?_of_untabled huntabled
  refine Outcome.bind_eq_ok.mpr ⟨bytes, Outcome.mapError_eq_ok.mpr (read_of_found? hentry), ?_⟩
  refine Outcome.bind_eq_ok.mpr ⟨text, Outcome.mapError_eq_ok.mpr hdecode, ?_⟩
  rw [hdocument]
  exact congrArg Except.ok htable

/-! ### The file that decides -/

theorem load_named (s : Site) (path : Path) :
    s.load (some path) =
      if (s.found? (s.folder.within path)).isSome then s.reads (s.folder.within path)
      else .error (.missing (s.folder.within path)) := rfl

theorem load_of_dotFile (h : s.own ".diff-sentinel.toml" = some entry) :
    s.load none = s.reads (s.folder.child ".diff-sentinel.toml") := by
  have hthere : s.files.contains s.workingFolder.parts (s.folder.child ".diff-sentinel.toml")
      = true := by
    rw [contains_eq, ← own, h]
    rfl
  show ofRepository s.files s.workingFolder s.folder = _
  rw [ofRepository, fileNames, List.map_cons, List.find?_cons_of_pos hthere]
  rfl

theorem load_of_plainFile (hdot : s.own ".diff-sentinel.toml" = none)
    (h : s.own "diff-sentinel.toml" = some entry) :
    s.load none = s.reads (s.folder.child "diff-sentinel.toml") := by
  have hmissing : ¬s.files.contains s.workingFolder.parts (s.folder.child ".diff-sentinel.toml")
      = true := by
    rw [contains_eq, ← own, hdot]
    simp
  have hthere : s.files.contains s.workingFolder.parts (s.folder.child "diff-sentinel.toml")
      = true := by
    rw [contains_eq, ← own, h]
    rfl
  show ofRepository s.files s.workingFolder s.folder = _
  rw [ofRepository, fileNames, List.map_cons, List.find?_cons_of_neg hmissing, List.map_cons,
    List.find?_cons_of_pos hthere]
  rfl

theorem load_of_bare (h : s.Bare) :
    s.load none = if (s.own "pyproject.toml").isSome then
      ofProject s.files s.workingFolder (s.folder.child "pyproject.toml") else .ok {} := by
  have hnone : (fileNames.map s.folder.child).find?
      (s.files.contains s.workingFolder.parts) = none := by
    rw [List.find?_eq_none]
    intro path hpath
    obtain ⟨name, hname, rfl⟩ := List.mem_map.mp hpath
    have hmissing : s.own name = none := by
      rcases List.mem_pair.mp hname with rfl | rfl
      · exact h.noDotFile
      · exact h.noPlainFile
    rw [contains_eq, ← own, hmissing]
    simp
  show ofRepository s.files s.workingFolder s.folder = _
  rw [ofRepository, hnone]
  rfl

/-- The file that decides for a repository gives its configuration or is the project file. -/
theorem load_of_decider?_none (h : s.decider? none = some path) :
    s.load none = s.reads path ∨ s.Bare ∧ path = s.folder.child "pyproject.toml" := by
  have hdecider : ((fileNames ++ [projectFile]).map s.folder.child).find?
      (fun path => (s.found? path).isSome) = some path := h
  cases hdot : s.own ".diff-sentinel.toml" with
  | some entry =>
      rw [fileNames, List.cons_append, List.map_cons,
        List.find?_cons_of_pos (by rw [← own, hdot]; rfl)] at hdecider
      rw [← Option.some.inj hdecider]
      exact Or.inl (load_of_dotFile hdot)
  | none =>
      rw [fileNames, List.cons_append, List.map_cons,
        List.find?_cons_of_neg (by rw [← own, hdot]; simp)] at hdecider
      cases hplain : s.own "diff-sentinel.toml" with
      | some entry =>
          rw [List.cons_append, List.map_cons,
            List.find?_cons_of_pos (by rw [← own, hplain]; rfl)] at hdecider
          rw [← Option.some.inj hdecider]
          exact Or.inl (load_of_plainFile hdot hplain)
      | none =>
          rw [List.cons_append, List.map_cons,
            List.find?_cons_of_neg (by rw [← own, hplain]; simp)] at hdecider
          have hmem := List.mem_of_find?_eq_some hdecider
          exact Or.inr ⟨⟨hdot, hplain⟩, by simpa [projectFile] using hmem⟩

/-- A project file gives what any file gives, but where its table is empty it is passed over. -/
theorem ofProject_cases (s : Site) (path : Path) :
    ofProject s.files s.workingFolder path = s.reads path ∨
      readTable s.files s.workingFolder path = .ok [] ∧
        s.reads path = .ok { source := some path } ∧
        ofProject s.files s.workingFolder path = .ok {} := by
  rw [reads, readFile, ofProject]
  cases readTable s.files s.workingFolder path with
  | error e => exact Or.inl rfl
  | ok table =>
      cases table with
      | nil => exact Or.inr ⟨rfl, rfl, rfl⟩
      | cons field table => exact Or.inl rfl

/-- **A file that is there gives the configuration where it decides, or it is passed over**, which
happens only to a project file with an empty table. -/
theorem load_of_decider? {named : Option Path} (h : s.decider? named = some path)
    (hthere : s.found? path = some entry) :
    s.load named = s.reads path ∨ named = none ∧ s.PassesOver path := by
  cases named with
  | some given =>
      obtain rfl : s.folder.within given = path := Option.some.inj h
      rw [load_named, hthere]
      exact Or.inl rfl
  | none =>
      rcases load_of_decider?_none h with hload | ⟨hbare, rfl⟩
      · exact Or.inl hload
      · rw [load_of_bare hbare, own, hthere]
        rcases s.ofProject_cases (s.folder.child "pyproject.toml") with
          hsame | ⟨htable, hreads, hproject⟩
        · exact Or.inl hsame
        · refine Or.inr ⟨rfl, hbare, htable, hreads, ?_⟩
          rw [load_of_bare hbare, own, hthere]
          exact hproject

theorem load_of_right {named : Option Path} {config : Config} (h : s.decider? named = some path)
    (hright : s.reads path = .ok config) :
    s.load named = .ok config ∨ named = none ∧ s.PassesOver path := by
  obtain ⟨entry, hthere⟩ := exists_found?_of_reads hright
  rcases load_of_decider? h hthere with hload | hpassed
  · exact Or.inl (hload.trans hright)
  · exact Or.inr hpassed

theorem load_of_wrong {named : Option Path} {e : ConfigError} (h : s.decider? named = some path)
    (hwrong : s.reads path = .error e) : ∃ e', s.load named = .error e' := by
  cases hthere : s.found? path with
  | some entry =>
      rcases load_of_decider? h hthere with hload | ⟨-, hpassed⟩
      · exact ⟨e, hload.trans hwrong⟩
      · exact absurd (hpassed.reads.symm.trans hwrong) (by simp)
  | none =>
      cases named with
      | some given =>
          obtain rfl : s.folder.within given = path := Option.some.inj h
          rw [load_named, hthere]
          exact ⟨_, rfl⟩
      | none =>
          -- Without a name, only a file that is there decides.
          have hsome := List.find?_some (p := fun path => (s.found? path).isSome) h
          exact absurd hsome (by simp [hthere])

/-- A repository without a table for the configuration has the defaults. -/
theorem load_of_untabled (hbare : s.Bare) (h : s.own "pyproject.toml" = none ∨
    ∃ document, s.Holds (s.folder.child "pyproject.toml") document ∧ Untabled document) :
    s.load none = .ok {} := by
  rw [load_of_bare hbare]
  rcases h with hmissing | ⟨document, hholds, huntabled⟩
  · rw [hmissing]
    rfl
  · have hname : (s.folder.child "pyproject.toml").name = projectFile := by
      simp [Path.name, Path.child, projectFile]
    have hthere : (s.own "pyproject.toml").isSome = true := by
      obtain ⟨bytes, text, hentry, -⟩ := hholds
      rw [own, hentry]
      rfl
    rw [if_pos hthere, ofProject, readTable_of_untabled hname hholds huntabled]
    rfl

end Site

/-! ### Two sites -/

/-- What decides the configurations of two sites, and when it is a mistake. -/
structure Precedence (s t : Site) : Prop where
  /-- A file that is named decides alone. -/
  named : ∀ path, s.found? (s.folder.within path) = t.found? (t.folder.within path) →
    s.load (some path) = t.load (some path)
  /-- Without one, the first file decides wherever it is there. -/
  dotFile : ∀ entry, s.own ".diff-sentinel.toml" = some entry →
    t.own ".diff-sentinel.toml" = some entry → s.load none = t.load none
  /-- Where the first is missing, the second decides. -/
  plainFile : s.own ".diff-sentinel.toml" = none → t.own ".diff-sentinel.toml" = none →
    ∀ entry, s.own "diff-sentinel.toml" = some entry → t.own "diff-sentinel.toml" = some entry →
      s.load none = t.load none
  /-- Where both are missing, the project file decides, be it there or not. -/
  projectFile : s.Bare → t.Bare → s.own "pyproject.toml" = t.own "pyproject.toml" →
    s.load none = t.load none
  /-- Without a table in a project file the defaults stand, which have no source. -/
  defaults : s.Bare → (s.own "pyproject.toml" = none ∨
    ∃ document, s.Holds (s.folder.child "pyproject.toml") document ∧ Untabled document) →
      s.load none = .ok {}
  /-- A file that decides and is right gives the configuration, unless it is passed over. -/
  right : ∀ named path config, s.decider? named = some path → s.reads path = .ok config →
    s.load named = .ok config ∨ named = none ∧ s.PassesOver path
  /-- Nothing stands in for a file that decides and is wrong. -/
  wrong : ∀ named path e, s.decider? named = some path → s.reads path = .error e →
    ∃ e', s.load named = .error e'

/-- **The file that decides a configuration is the only one that matters**, and if it is wrong the
configuration is. -/
theorem precedence_of_folder {s t : Site} (hfolder : s.folder = t.folder) : Precedence s t where
  named := by
    intro path hentry
    rw [Site.load_named, Site.load_named, ← hentry, ← hfolder]
    cases hthere : s.found? (s.folder.within path) with
    | none => rfl
    | some entry =>
        rw [hthere, ← hfolder] at hentry
        exact Site.reads_congr hthere hentry.symm
  dotFile := by
    intro entry hs ht
    rw [Site.load_of_dotFile hs, Site.load_of_dotFile ht, ← hfolder]
    exact Site.reads_congr hs (by rw [hfolder]; exact ht)
  plainFile := by
    intro hsdot htdot entry hs ht
    rw [Site.load_of_plainFile hsdot hs, Site.load_of_plainFile htdot ht, ← hfolder]
    exact Site.reads_congr hs (by rw [hfolder]; exact ht)
  projectFile := by
    intro hs ht hentry
    rw [Site.load_of_bare hs, Site.load_of_bare ht, ← hentry, ← hfolder]
    cases hthere : s.own "pyproject.toml" with
    | none => rfl
    | some entry =>
        have hother : t.found? (s.folder.child "pyproject.toml") = some entry := by
          rw [hfolder]
          exact hentry.symm.trans hthere
        rw [ofProject, ofProject, Site.readTable_congr hthere hother]
  defaults := Site.load_of_untabled
  right := fun _ _ _ => Site.load_of_right
  wrong := fun _ _ _ => Site.load_of_wrong

/-- A repository with a configuration of its own. -/
def ownSite : Site where
  files := { entries := [(["home"], .folder), (["home", ".diff-sentinel.toml"],
    .file (Utf8.encode "format = \"json\""))] }
  workingFolder := { start := .root, parts := ["home"] }
  repository := {}

/-- The same repository, seen from above, with a project file that is no TOML. -/
def brokenProjectSite : Site where
  files := ownSite.files.set ["home", "pyproject.toml"] (.file (Utf8.encode "[tool"))
  workingFolder := { start := .root }
  repository := { parts := ["home"] }

theorem precedence_of_folder_brokenProject :
    ownSite.folder = brokenProjectSite.folder ∧
      brokenProjectSite.reads (brokenProjectSite.folder.child "pyproject.toml")
        = .error (.malformed (brokenProjectSite.folder.child "pyproject.toml")) ∧
      ownSite.load none = brokenProjectSite.load none := by
  have hfolder : ownSite.folder = brokenProjectSite.folder := by decide
  refine ⟨hfolder, by decide +kernel, ?_⟩
  exact (precedence_of_folder hfolder).dotFile (.file (Utf8.encode "format = \"json\""))
    (by decide +kernel) (by decide +kernel)

end Config

end PatchReview
