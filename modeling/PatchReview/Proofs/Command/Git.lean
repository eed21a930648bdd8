/-
When a command runs git.

Only a review does, and only one that is given its diff neither in a file nor on standard
input; it runs git once, after its settings are settled and before it reads its policy.
Everything else that commands do to files is their own doing.  Git is not: it is another
program, and what it makes of the files is whatever the environment says it does.
-/
import PatchReview.Command.Run
import PatchReview.Proofs.Outcome

namespace PatchReview

namespace ReviewArguments

variable {env : Environment} {a : ReviewArguments} {job : ReviewJob}

theorem of_job (h : a.job env = .ok job) :
    env.configuration a.repository a.config = .ok job.config ∧
      ∃ range, a.source range = .ok job.source := by
  obtain ⟨config, hconfig, h⟩ := Outcome.bind_eq_ok.mp h
  obtain ⟨format, -, h⟩ := Outcome.bind_eq_ok.mp h
  obtain ⟨failOn, -, h⟩ := Outcome.bind_eq_ok.mp h
  dsimp only at h
  split at h
  · exact absurd h (by simp [bind, Except.bind, throw, throwThe, MonadExceptOf.throw])
  · obtain ⟨range, -, h⟩ := Outcome.bind_eq_ok.mp h
    obtain ⟨source, hsource, h⟩ := Outcome.bind_eq_ok.mp h
    rw [← Outcome.pure_eq_ok.mp h]
    exact ⟨hconfig, range, hsource⟩

theorem source_of_diffFile {path : Path} (h : a.job env = .ok job)
    (hdiff : a.diffFile = some path) : job.source = .file path := by
  obtain ⟨-, range, hsource⟩ := of_job h
  rw [source, hdiff] at hsource
  exact (Except.ok.inj hsource).symm

/-- A diff is asked of git if it is given in no other way. -/
theorem not_given_of_source {range : Option GitRange} {arguments : List Text} {ranged : Bool}
    (h : a.source range = .ok (.git arguments ranged)) :
    a.diffFile = none ∧ a.fromInput = false := by
  rw [source] at h
  split at h
  · exact absurd (Except.ok.inj h) (by simp)
  · rename_i hdiff
    split at h
    · exact absurd (Except.ok.inj h) (by simp)
    · rename_i hinput
      exact ⟨hdiff, by simpa using hinput⟩

end ReviewArguments

namespace Environment

/-- What git leaves differs from what was there in the files alone. -/
theorem exists_afterGit_eq (env : Environment) (repository : Path) (arguments : List Text) :
    ∃ files, env.afterGit repository arguments = { env with files } := by
  unfold afterGit
  split
  · exact ⟨env.files, rfl⟩
  · exact ⟨_, rfl⟩

end Environment

theorem DiffSource.exists_afterDiff_eq (source : DiffSource) (env : Environment)
    (repository : Path) : ∃ files, source.afterDiff env repository = { env with files } := by
  cases source with
  | file | input => exact ⟨env.files, rfl⟩
  | git arguments ranged => exact env.exists_afterGit_eq repository arguments

/-- A review reads its policy from what it has seen before if git leaves the files alone. -/
theorem ReviewArguments.afterDiff_eq {env : Environment} {a : ReviewArguments} {job : ReviewJob}
    (hgit : (a.afterGit env).files = env.files) (h : a.job env = .ok job) :
    job.source.afterDiff env a.repository = env := by
  obtain ⟨files, hfiles⟩ := job.source.exists_afterDiff_eq env a.repository
  simp only [afterGit, h, hfiles] at hgit
  rw [hfiles, hgit]

namespace Invocation

variable {env : Environment} {invocation : Invocation}

/-- A command line leads to a run of git with some arguments. -/
structure RunsGit (invocation : Invocation) (env : Environment) (a : ReviewArguments)
    (arguments : List Text) : Prop where
  review : invocation = .run (.review a)
  /-- The diff is given in no other way. -/
  notGiven : a.diffFile = none ∧ a.fromInput = false
  calls : invocation.gitCalls env = [Git.commandLine arguments]
  after : invocation.afterGit env = env.afterGit a.repository arguments

/-- A command line leads to no run of git, and then all is as it was, or to one. -/
theorem git_cases (invocation : Invocation) (env : Environment) :
    (invocation.gitCalls env = [] ∧ invocation.afterGit env = env) ∨
      ∃ a arguments, invocation.RunsGit env a arguments := by
  cases invocation with
  | help | version => exact Or.inl ⟨rfl, rfl⟩
  | run command =>
      cases command with
      | rules | validate | boundaries | normalize | compare | config | configInit =>
          exact Or.inl ⟨rfl, rfl⟩
      | review a =>
          simp only [gitCalls, afterGit, Command.gitCalls, Command.afterGit,
            ReviewArguments.gitCalls, ReviewArguments.afterGit]
          cases hjob : a.job env with
          | error e => exact Or.inl ⟨rfl, rfl⟩
          | ok job =>
              cases hsource : job.source with
              | file | input =>
                  simp only [hsource]
                  exact Or.inl ⟨rfl, rfl⟩
              | git arguments ranged =>
                  obtain ⟨-, range, hrange⟩ := ReviewArguments.of_job hjob
                  rw [hsource] at hrange
                  refine Or.inr ⟨a, arguments, rfl, ReviewArguments.not_given_of_source hrange,
                    ?_, ?_⟩
                  · simp only [gitCalls, Command.gitCalls, ReviewArguments.gitCalls, hjob, hsource]
                    rfl
                  · simp only [afterGit, Command.afterGit, ReviewArguments.afterGit, hjob, hsource]
                    rfl

theorem workingFolder_afterGit (invocation : Invocation) (env : Environment) :
    (invocation.afterGit env).workingFolder = env.workingFolder := by
  rcases invocation.git_cases env with ⟨-, hsame⟩ | ⟨a, arguments, hgit⟩
  · rw [hsame]
  · obtain ⟨files, hfiles⟩ := env.exists_afterGit_eq a.repository arguments
    rw [hgit.after, hfiles]

end Invocation

end PatchReview
