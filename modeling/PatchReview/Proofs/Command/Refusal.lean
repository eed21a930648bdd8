/-
Reading files for a command.

A command fails in one of two ways: it is refused, which says that the command line asks
for what cannot be done, or it breaks on a file.  Documents and configurations are looked
for before they are read, so a file that is missing is a reason to refuse, and so is
whatever is wrong with what a file says; only a folder in the place of the file still
breaks the command.  A diff is read without looking first.
-/
import PatchReview.Command.Lookup
import PatchReview.Proofs.File.Tree
import PatchReview.Proofs.Outcome

namespace PatchReview

open Outcome (ErrorsAre Fails errorsAre_mapError)

/-! ### Documents and configurations -/

/-- There is no document, but not because its file cannot be read. -/
def DocumentError.IsOfContent (e : DocumentError) : Prop := ∀ resisting, e ≠ .unreadable resisting

/-- There is no configuration, but not because its file cannot be read. -/
def ConfigError.IsOfContent (e : ConfigError) : Prop := ∀ resisting, e ≠ .unreadable resisting

section

variable {files : FileTree} {workingFolder path : Path}

theorem Json.load_errorsAre (kind : Text) (h : files.hasFolder workingFolder.parts path = false) :
    ErrorsAre DocumentError.IsOfContent (Json.load files workingFolder kind path) := by
  rw [Json.load]
  split
  · rename_i hthere
    obtain ⟨bytes, hbytes⟩ := FileTree.exists_read_eq_ok hthere h
    rw [hbytes]
    refine .bind (.ok bytes) fun _ _ => ?_
    refine .bind (errorsAre_mapError fun _ _ => by simp) fun text _ => ?_
    rw [Json.ofFileText]
    split
    · exact .ok _
    · exact .error fun _ => by simp
    · exact .error fun _ => by simp
  · exact .error fun _ => by simp

namespace Config

theorem readTable_errorsAre (hthere : files.contains workingFolder.parts path = true)
    (h : files.hasFolder workingFolder.parts path = false) :
    ErrorsAre ConfigError.IsOfContent (readTable files workingFolder path) := by
  obtain ⟨bytes, hbytes⟩ := FileTree.exists_read_eq_ok hthere h
  rw [readTable, hbytes]
  refine .bind (.ok bytes) fun _ _ => ?_
  refine .bind (errorsAre_mapError fun _ _ => by simp) fun text _ => ?_
  split
  · exact .error fun _ => by simp
  · exact .error fun _ => by simp
  · exact .ok _

theorem ofTable_errorsAre (table : Toml.Fields) :
    ErrorsAre ConfigError.IsOfContent ((ofTable table path).mapError .table) :=
  errorsAre_mapError fun _ _ => by simp

theorem readFile_errorsAre (hthere : files.contains workingFolder.parts path = true)
    (h : files.hasFolder workingFolder.parts path = false) :
    ErrorsAre ConfigError.IsOfContent (readFile files workingFolder path) :=
  .bind (readTable_errorsAre hthere h) fun table _ => ofTable_errorsAre table

theorem ofProject_errorsAre (hthere : files.contains workingFolder.parts path = true)
    (h : files.hasFolder workingFolder.parts path = false) :
    ErrorsAre ConfigError.IsOfContent (ofProject files workingFolder path) := by
  refine .bind (readTable_errorsAre hthere h) fun table _ => ?_
  split
  · exact .ok _
  · exact ofTable_errorsAre table

/-- A configuration is refused for what it says, unless it is looked for at a folder. -/
theorem load_errorsAre {repository : Path} {named : Option Path}
    (h : ∀ p ∈ lookups (Path.resolve workingFolder repository) named,
      files.hasFolder workingFolder.parts p = false) :
    ErrorsAre ConfigError.IsOfContent (Config.load files workingFolder repository named) := by
  cases named with
  | some p =>
      rw [Config.load]
      split
      · rename_i hthere
        exact readFile_errorsAre hthere (h _ (by simp [lookups]))
      · exact .error fun _ => by simp
  | none =>
      show ErrorsAre _ (ofRepository files workingFolder (Path.resolve workingFolder repository))
      rw [ofRepository]
      split
      · rename_i p hfound
        have hmem := List.mem_of_find?_eq_some hfound
        refine readFile_errorsAre (List.find?_some hfound) (h p ?_)
        rw [lookups, List.map_append]
        exact List.mem_append_left _ hmem
      · dsimp only
        split
        · rename_i hthere
          refine ofProject_errorsAre hthere (h _ ?_)
          simp [lookups]
        · exact .ok _

end Config

end

/-! ### Commands -/

/-- A mistake on the command line. -/
def CommandError.IsUsage (e : CommandError) : Prop := ∃ mistake, e = .usage mistake

namespace Environment

variable {env : Environment} {path : Path}

/-- Nothing is at a path. -/
def lacks (env : Environment) (path : Path) : Bool :=
  !env.files.contains env.workingFolder.parts path

/-- What is at a path, if anything, is a file. -/
def HasNoFolder (env : Environment) (path : Path) : Prop :=
  env.files.hasFolder env.workingFolder.parts path = false

instance (env : Environment) (path : Path) : Decidable (env.HasNoFolder path) :=
  inferInstanceAs (Decidable (_ = false))

theorem fails_document (kind : Text) (h : env.lacks path = true) :
    Fails CommandError.IsUsage (env.document kind path) := by
  rw [lacks, Bool.not_eq_true'] at h
  refine ⟨.badValue (DocumentError.missing kind path).message, ?_, ⟨_, rfl⟩⟩
  rw [document, Json.load, h]
  rfl

theorem document_errorsAre (kind : Text) (h : env.HasNoFolder path) :
    ErrorsAre CommandError.IsUsage (env.document kind path) := by
  refine (Json.load_errorsAre kind h).mapError fun e he => ?_
  cases e with
  | unreadable e => exact absurd rfl (he e)
  | missing | undecodable | malformed | numeral => exact ⟨_, rfl⟩

theorem fails_configuration {repository : Path}
    (h : env.lacks ((Path.resolve env.workingFolder repository).within path) = true) :
    Fails CommandError.IsUsage (env.configuration repository (some path)) := by
  rw [lacks, Bool.not_eq_true'] at h
  refine ⟨.badValueFor "config" (ConfigError.missing
    ((Path.resolve env.workingFolder repository).within path)).message, ?_, ⟨_, rfl⟩⟩
  simp only [configuration, Config.load, h]
  rfl

theorem configuration_errorsAre {repository : Path} {named : Option Path}
    (h : ∀ p ∈ Config.lookups (Path.resolve env.workingFolder repository) named,
      env.HasNoFolder p) :
    ErrorsAre CommandError.IsUsage (env.configuration repository named) := by
  refine (Config.load_errorsAre h).mapError fun e he => ?_
  cases e with
  | unreadable e => exact absurd rfl (he e)
  | missing | undecodable | malformed | numeral | table => exact ⟨_, rfl⟩

/-- A diff file that is missing is no mistake on the command line. -/
theorem diffText_of_lacks (h : env.lacks path = true) :
    ∃ flaw, env.diffText path = .error (.file ⟨flaw, path⟩) := by
  rw [lacks, Bool.not_eq_true'] at h
  obtain ⟨flaw, hflaw⟩ := FileTree.read_of_not_contains h
  exact ⟨flaw, by rw [diffText, FileTree.readLossy, hflaw]; rfl⟩

theorem exists_diffText_eq_ok (h : env.lacks path = false) (hfile : env.HasNoFolder path) :
    ∃ text, env.diffText path = .ok text := by
  rw [lacks, Bool.not_eq_false'] at h
  obtain ⟨bytes, hbytes⟩ := FileTree.exists_read_eq_ok h hfile
  exact ⟨_, by rw [diffText, FileTree.readLossy, hbytes]; rfl⟩

/-- A document that may be left out. -/
theorem optionalDocument_errorsAre (kind : Text) {path : Option Path}
    (h : ∀ p ∈ path, env.HasNoFolder p) :
    ErrorsAre CommandError.IsUsage (env.optionalDocument kind path) := by
  cases path with
  | none => exact .ok _
  | some p => exact document_errorsAre kind (h p rfl)

end Environment

theorem OutputFormat.ofArgument_errorsAre (word : Text) :
    ErrorsAre CommandError.IsUsage (OutputFormat.ofArgument word) := by
  rw [OutputFormat.ofArgument]
  split
  · exact .ok _
  · exact .error ⟨_, rfl⟩

end PatchReview
