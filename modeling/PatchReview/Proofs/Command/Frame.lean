/-
What commands leave alone.

A command itself changes files in one place only, where the file of its reply is saved.
So it is enough to know which replies name such a file: a review names the one it was told
to write, `config-init` the one it is to create, and no other command names any.  What
saving does to the tree then bounds what the command does, and as it keeps the tree
sound, the same bound holds for every command of a session.

That bound starts from the files as git left them.  A review passes what it was given as a
base on to git, which may take it for an option and write a file that nobody asked the
command for; so what git does is a part of what a session does, and no more is known of it
than that it leaves a sound tree.
-/
import PatchReview.Proofs.Command.Git
import PatchReview.Proofs.File.Tree

namespace PatchReview

/-! ### Replies that save nothing -/

/-- Whatever comes of a reply, it names no file to save. -/
def SavesNothing (x : Except CommandError Reply) : Prop :=
  ∀ reply, x = .ok reply → reply.save = none

namespace SavesNothing

variable {α : Type}

theorem error (e : CommandError) : SavesNothing (.error e) := fun _ h => absurd h (by simp)

theorem ok {reply : Reply} (h : reply.save = none) : SavesNothing (.ok reply) :=
  fun _ heq => Except.ok.inj heq ▸ h

theorem pure {reply : Reply} (h : reply.save = none) : SavesNothing (pure reply) := ok h

theorem bind {x : Except CommandError α} {f : α → Except CommandError Reply}
    (h : ∀ a, SavesNothing (f a)) : SavesNothing (x >>= f) := by
  intro reply heq
  obtain ⟨a, -, hreply⟩ := Outcome.bind_eq_ok.mp heq
  exact h a reply hreply

end SavesNothing

variable {env : Environment}

theorem RulesArguments.savesNothing_reply (a : RulesArguments) : SavesNothing (a.reply env) := by
  refine .bind fun format => .bind fun config => ?_
  split
  · exact .error _
  · exact .bind fun document => .bind fun rules => .bind fun text => .pure rfl

theorem ValidateArguments.savesNothing_reply (a : ValidateArguments) :
    SavesNothing (a.reply env) := by
  refine .bind fun format => .bind fun document => .bind fun rules => ?_
  cases format with
  | json => exact .bind fun text => .pure rfl
  | human => exact .bind fun text => .pure rfl

theorem BoundariesArguments.savesNothing_reply (a : BoundariesArguments) :
    SavesNothing (a.reply env) := by
  refine .bind fun format => .bind fun document => .bind fun loaded => ?_
  cases format with
  | json => exact .bind fun text => .pure rfl
  | human => exact .bind fun lines => .pure rfl

theorem NormalizeArguments.savesNothing_reply [Host] (a : NormalizeArguments) :
    SavesNothing (a.reply env) :=
  .bind fun _ => .bind fun _ => .pure rfl

theorem CompareArguments.savesNothing_reply (a : CompareArguments) :
    SavesNothing (a.reply env) := by
  refine .bind fun format => .bind fun current => .bind fun previous => ?_
  cases format with
  | json => exact .bind fun text => .pure rfl
  | human => exact .pure rfl

theorem ConfigArguments.savesNothing_reply (a : ConfigArguments) : SavesNothing (a.reply env) := by
  refine .bind fun format => .bind fun config => ?_
  cases format with
  | json => exact .bind fun text => .pure rfl
  | human => exact .bind fun lines => .pure rfl

/-! ### The file that is saved -/

theorem ReviewArguments.save_of_reply [Host] {a : ReviewArguments} {reply : Reply} {path : Path}
    {text : Text} (h : a.reply env = .ok reply) (hsave : reply.save = some (path, text)) :
    a.out = some path := by
  obtain ⟨job, -, h⟩ := Outcome.bind_eq_ok.mp h
  obtain ⟨review, -, h⟩ := Outcome.bind_eq_ok.mp h
  obtain ⟨save, hsaved, h⟩ := Outcome.bind_eq_ok.mp h
  have hreply : reply.save = save := by
    cases hformat : job.format with
    | json =>
        rw [hformat] at h
        obtain ⟨printed, -, h⟩ := Outcome.bind_eq_ok.mp h
        obtain ⟨exitCode, -, h⟩ := Outcome.bind_eq_ok.mp h
        rw [← Outcome.pure_eq_ok.mp h]
    | human =>
        rw [hformat] at h
        obtain ⟨printed, -, h⟩ := Outcome.bind_eq_ok.mp h
        obtain ⟨exitCode, -, h⟩ := Outcome.bind_eq_ok.mp h
        rw [← Outcome.pure_eq_ok.mp h]
  rw [hreply] at hsave
  unfold ReviewArguments.save at hsaved
  cases hout : a.out with
  | none =>
      rw [hout] at hsaved
      exact absurd ((Except.ok.inj hsaved).trans hsave) (by simp)
  | some out =>
      rw [hout] at hsaved
      obtain ⟨written, -, hsaved⟩ := Outcome.bind_eq_ok.mp hsaved
      have hpair := Option.some.inj ((Outcome.pure_eq_ok.mp hsaved).trans hsave)
      exact congrArg some (congrArg Prod.fst hpair)

/-- What `config-init` replies: it names the resolved path, at which nothing is unless overwriting
is forced. -/
theorem ConfigInitArguments.save_of_reply {a : ConfigInitArguments} {reply : Reply}
    (h : a.reply env = .ok reply) :
    reply.save = some (Path.resolve env.workingFolder a.out, Config.starter) ∧
      (a.force = false →
        env.files.contains env.workingFolder.parts (Path.resolve env.workingFolder a.out)
          = false) := by
  unfold ConfigInitArguments.reply at h
  simp only at h
  split at h
  · exact absurd h (by simp)
  · rename_i hguard
    refine ⟨by rw [← Except.ok.inj h], fun hforce => ?_⟩
    simpa [hforce] using hguard

namespace Command

/-- The file that a command is asked to write. -/
def target? (workingFolder : Path) : Command → Option Path
  | review a => a.out
  | configInit a => some (Path.resolve workingFolder a.out)
  | _ => none

/-- A command saves no file but the one that it is asked to write. -/
theorem save_of_reply [Host] {command : Command} {reply : Reply} {path : Path} {text : Text}
    (h : command.reply env = .ok reply) (hsave : reply.save = some (path, text)) :
    command.target? env.workingFolder = some path := by
  have hno : SavesNothing (command.reply env) → command.target? env.workingFolder = some path :=
    fun hnothing => absurd ((hnothing reply h).symm.trans hsave) (by simp)
  cases command with
  | review a => exact a.save_of_reply h hsave
  | rules a => exact hno a.savesNothing_reply
  | validate a => exact hno a.savesNothing_reply
  | boundaries a => exact hno a.savesNothing_reply
  | normalize a => exact hno a.savesNothing_reply
  | compare a => exact hno a.savesNothing_reply
  | config a => exact hno a.savesNothing_reply
  | configInit a =>
      have hpair := Option.some.inj ((ConfigInitArguments.save_of_reply h).1.symm.trans hsave)
      exact congrArg some (congrArg Prod.fst hpair)

end Command

namespace Invocation

/-- The file that a command line asks to be written. -/
def target? (workingFolder : Path) : Invocation → Option Path
  | run command => command.target? workingFolder
  | _ => none

theorem save_of_reply [Host] {invocation : Invocation} {reply : Reply} {path : Path} {text : Text}
    (h : invocation.reply env = .ok reply) (hsave : reply.save = some (path, text)) :
    invocation.target? env.workingFolder = some path := by
  cases invocation with
  | run command => exact Command.save_of_reply h hsave
  | help =>
      rw [← Except.ok.inj h] at hsave
      exact absurd hsave (by simp)
  | version =>
      rw [← Except.ok.inj h] at hsave
      exact absurd hsave (by simp)

end Invocation

namespace Environment

/-! ### One command line -/

theorem carryOut_files (env : Environment) (reply : Reply) :
    (env.carryOut reply).1 = (env.saved reply).1 := by
  rw [carryOut]
  cases env.saved reply with
  | mk files failure => cases failure <;> rfl

/-- A reply that is carried out is no mistake on the command line, whatever happens to its file. -/
theorem carryOut_ne_usage (env : Environment) (reply : Reply) (e : UsageError) :
    (env.carryOut reply).2 ≠ .error (.usage e) := by
  rw [carryOut]
  cases env.saved reply with
  | mk files failure => cases failure <;> simp

/-- The reply to a command line names a file, and this file is saved. -/
structure Saves [Host] (env : Environment) (invocation : Invocation) (path : Path) (text : Text) :
    Prop where
  named : ∃ reply, invocation.reply env = .ok reply ∧ reply.save = some (path, text)
  files : (env.runInvocation invocation).files
    = ((invocation.afterGit env).files.save env.workingFolder.parts path (Utf8.encode text)).1
  accepted : ∀ e, (env.runInvocation invocation).outcome ≠ .error (.usage e)

theorem Saves.target [Host] {invocation : Invocation} {path : Path} {text : Text}
    (h : env.Saves invocation path text) :
    invocation.target? env.workingFolder = some path := by
  obtain ⟨reply, hreply, hsave⟩ := h.named
  exact Invocation.save_of_reply hreply hsave

theorem gitCalls_runInvocation [Host] (env : Environment) (invocation : Invocation) :
    (env.runInvocation invocation).gitCalls = invocation.gitCalls env := by
  rw [runInvocation]
  cases invocation.reply env <;> rfl

/-- What a command line can do to files once git has run: nothing, or what its reply says. -/
theorem runInvocation_cases [Host] (env : Environment) (invocation : Invocation) :
    (env.runInvocation invocation).files = (invocation.afterGit env).files ∨
      ∃ path text, env.Saves invocation path text := by
  cases hreply : invocation.reply env with
  | error e =>
      rw [runInvocation, hreply]
      exact Or.inl rfl
  | ok reply =>
      have hfiles : (env.runInvocation invocation).files
          = ((invocation.afterGit env).saved reply).1 := by
        rw [runInvocation, hreply]
        exact (invocation.afterGit env).carryOut_files reply
      have haccepted : ∀ e, (env.runInvocation invocation).outcome ≠ .error (.usage e) := by
        rw [runInvocation, hreply]
        exact (invocation.afterGit env).carryOut_ne_usage reply
      cases hsave : reply.save with
      | none =>
          rw [saved, hsave] at hfiles
          exact Or.inl hfiles
      | some file =>
          rw [saved, hsave, invocation.workingFolder_afterGit env] at hfiles
          exact Or.inr ⟨file.1, file.2, ⟨reply, hreply, hsave⟩, hfiles, haccepted⟩

end Environment

/-! ### Sessions -/

/-- A command line, and what its command sees besides files. -/
structure Call where
  arguments : List Text
  input : Text := []
  git : GitRun := .missing
  gitEffect : (folder : Path) → (arguments : List Text) → FileTree → FileTree :=
    fun _ _ files => files
  runId : Text := []
  time : Text := []

namespace Call

variable {workingFolder : Path} {files : FileTree}

/-- What the command of a call sees. -/
def environment (call : Call) (workingFolder : Path) (files : FileTree) : Environment :=
  { files, workingFolder, input := call.input, git := call.git, gitEffect := call.gitEffect
    runId := call.runId, time := call.time }

/-- What comes of a call. -/
def result [Host] (call : Call) (workingFolder : Path) (files : FileTree) : CommandResult :=
  (call.environment workingFolder files).run call.arguments

/-- What a call asks for, if its command line can be read. -/
def invocation? (call : Call) : Option Invocation :=
  (Invocation.ofArguments call.arguments).toOption

/-- The file that a call asks to be written. -/
def target? (call : Call) (workingFolder : Path) : Option Path :=
  call.invocation?.bind (Invocation.target? workingFolder)

/-- The files once git has run for a call, if it does. -/
def afterGit (call : Call) (workingFolder : Path) (files : FileTree) : FileTree :=
  match call.invocation? with
  | none => files
  | some invocation => (invocation.afterGit (call.environment workingFolder files)).files

/-- Whatever git does for a call, it leaves a sound tree. -/
def GitLeavesSound (call : Call) (workingFolder : Path) : Prop :=
  ∀ files : FileTree, files.Sound workingFolder →
    (call.afterGit workingFolder files).Sound workingFolder

theorem target?_of_invocation? {call : Call} {invocation : Invocation}
    (h : call.invocation? = some invocation) :
    call.target? workingFolder = invocation.target? workingFolder := by
  rw [target?, h]
  rfl

theorem afterGit_of_invocation? {call : Call} {invocation : Invocation}
    (h : call.invocation? = some invocation) :
    call.afterGit workingFolder files
      = (invocation.afterGit (call.environment workingFolder files)).files := by
  rw [afterGit, h]

/-- A call whose command line cannot be read changes nothing, and any other one does what its
command line asks for. -/
theorem result_cases [Host] (call : Call) (workingFolder : Path) (files : FileTree) :
    ((call.result workingFolder files).files = files ∧ call.invocation? = none ∧
        (call.result workingFolder files).gitCalls = []) ∨
      ∃ invocation, call.invocation? = some invocation ∧
        call.result workingFolder files
          = (call.environment workingFolder files).runInvocation invocation := by
  rw [result, Environment.run, invocation?]
  cases Invocation.ofArguments call.arguments with
  | error e => exact Or.inl ⟨rfl, rfl, rfl⟩
  | ok invocation => exact Or.inr ⟨invocation, rfl, rfl⟩

/-- What a call can do to files once git has run: nothing, or saving what its reply names. -/
theorem saves_of_result [Host] (call : Call) (workingFolder : Path) (files : FileTree) :
    (call.result workingFolder files).files = call.afterGit workingFolder files ∨
      ∃ invocation path text, call.invocation? = some invocation ∧
        call.result workingFolder files
          = (call.environment workingFolder files).runInvocation invocation ∧
        (call.environment workingFolder files).Saves invocation path text := by
  rcases call.result_cases workingFolder files with ⟨hsame, hnone, -⟩ | ⟨invocation, hread, hresult⟩
  · exact Or.inl (by rw [hsame, afterGit, hnone])
  · rw [hresult, afterGit_of_invocation? hread]
    rcases (call.environment workingFolder files).runInvocation_cases invocation with
      hsame | ⟨path, text, hsaves⟩
    · exact Or.inl hsame
    · exact Or.inr ⟨invocation, path, text, hread, rfl, hsaves⟩

/-- The file that a call asks for, or a folder on the way there. -/
def Reaches (call : Call) (workingFolder : Path) (place : List Text) : Prop :=
  ∃ path, call.target? workingFolder = some path ∧
    (place = path.place workingFolder ∨
      ∃ q : Path, q.IsAbove path ∧ place = q.place workingFolder)

variable [Host]

/-- What a call does to files is what it was asked to do, or what git does. -/
structure Framed (call : Call) (workingFolder : Path) (before : FileTree) : Prop where
  /-- A call that runs no git leaves it no way to change anything. -/
  gitless : (call.result workingFolder before).gitCalls = [] →
    call.afterGit workingFolder before = before
  /-- Only a review runs git, and only one whose diff is given in no other way. -/
  asked : (call.result workingFolder before).gitCalls ≠ [] →
    ∃ a, call.invocation? = some (.run (.review a)) ∧ a.diffFile = none ∧ a.fromInput = false
  /-- A call that is not asked to write a file changes nothing that git has left. -/
  unwritten : call.target? workingFolder = none →
    (call.result workingFolder before).files = call.afterGit workingFolder before
  /-- Of what git has left a call changes the file that it is asked to write, and folders above it
  that are missing. -/
  framed : ∀ path, call.target? workingFolder = some path → ∀ place,
    (call.result workingFolder before).files.get? place
        = (call.afterGit workingFolder before).get? place ∨
      (place = path.place workingFolder ∧
        (call.afterGit workingFolder before).get? place ≠ some .folder ∧
        ∃ bytes, (call.result workingFolder before).files.get? place = some (.file bytes)) ∨
      ((∃ q : Path, q.IsAbove path ∧ place = q.place workingFolder) ∧
        (call.afterGit workingFolder before).get? place = none ∧
        (call.result workingFolder before).files.get? place = some .folder)
  /-- A mistake on the command line leaves everything as git has left it. -/
  refused : ∀ e, (call.result workingFolder before).outcome = .error (.usage e) →
    (call.result workingFolder before).files = call.afterGit workingFolder before
  /-- Without force, `config-init` changes no file. -/
  unforced : ∀ a, call.invocation? = some (.run (.configInit a)) → a.force = false →
    ∀ place bytes, before.get? place = some (.file bytes) →
      (call.result workingFolder before).files.get? place = some (.file bytes)

/-- Whatever a call does once git has run, it is a part of saving its file. -/
theorem saving_result {call : Call} (hgit : call.GitLeavesSound workingFolder)
    (hsound : files.Sound workingFolder) :
    (call.result workingFolder files).files = call.afterGit workingFolder files ∨
      ∃ path, call.target? workingFolder = some path ∧
        FileTree.Saving workingFolder path (call.afterGit workingFolder files)
          (call.result workingFolder files).files := by
  rcases call.saves_of_result workingFolder files with
    hsame | ⟨invocation, path, text, hread, hresult, hsaves⟩
  · exact Or.inl hsame
  · refine Or.inr ⟨path, (target?_of_invocation? hread).trans hsaves.target, ?_⟩
    rw [hresult, hsaves.files, ← afterGit_of_invocation? hread]
    exact (hgit files hsound).saving_save path (Utf8.encode text)

theorem reaches_of_result {call : Call} (hgit : call.GitLeavesSound workingFolder)
    (hsound : files.Sound workingFolder) {place : List Text}
    (hchanged : (call.result workingFolder files).files.get? place
      ≠ (call.afterGit workingFolder files).get? place) :
    call.Reaches workingFolder place := by
  rcases saving_result hgit hsound with hsame | ⟨path, htarget, hsaving⟩
  · exact absurd (by rw [hsame]) hchanged
  · refine ⟨path, htarget, ?_⟩
    rcases hsaving.frame place with hsame | ⟨hplace, -, -⟩ | ⟨habove, -, -⟩
    · exact absurd hsame hchanged
    · exact Or.inl hplace
    · exact Or.inr habove

theorem sound_result {call : Call} (hgit : call.GitLeavesSound workingFolder)
    (hsound : files.Sound workingFolder) :
    (call.result workingFolder files).files.Sound workingFolder := by
  rcases saving_result hgit hsound with hsame | ⟨path, -, hsaving⟩
  · rw [hsame]
    exact hgit files hsound
  · exact hsaving.sound (hgit files hsound)

theorem gitless_result (call : Call) (h : (call.result workingFolder files).gitCalls = []) :
    call.afterGit workingFolder files = files := by
  rcases call.result_cases workingFolder files with ⟨-, hnone, -⟩ | ⟨invocation, hread, hresult⟩
  · rw [afterGit, hnone]
  · rw [afterGit_of_invocation? hread]
    rcases invocation.git_cases (call.environment workingFolder files) with
      ⟨-, hsame⟩ | ⟨a, arguments, hruns⟩
    · rw [hsame]
      rfl
    · rw [hresult, Environment.gitCalls_runInvocation, hruns.calls] at h
      exact absurd h (by simp)

theorem asked_result (call : Call) (h : (call.result workingFolder files).gitCalls ≠ []) :
    ∃ a, call.invocation? = some (.run (.review a)) ∧ a.diffFile = none ∧ a.fromInput = false := by
  rcases call.result_cases workingFolder files with ⟨-, -, hnone⟩ | ⟨invocation, hread, hresult⟩
  · exact absurd hnone h
  · rcases invocation.git_cases (call.environment workingFolder files) with
      ⟨hnone, -⟩ | ⟨a, arguments, hruns⟩
    · rw [hresult, Environment.gitCalls_runInvocation] at h
      exact absurd hnone h
    · exact ⟨a, hruns.review ▸ hread, hruns.notGiven⟩

theorem refused_result (call : Call) {e : UsageError}
    (h : (call.result workingFolder files).outcome = .error (.usage e)) :
    (call.result workingFolder files).files = call.afterGit workingFolder files := by
  rcases call.saves_of_result workingFolder files with
    hsame | ⟨invocation, path, text, -, hresult, hsaves⟩
  · exact hsame
  · rw [hresult] at h
    exact absurd h (hsaves.accepted e)

theorem unforced_result (hsound : files.Sound workingFolder) {call : Call}
    {a : ConfigInitArguments} (hcall : call.invocation? = some (.run (.configInit a)))
    (hforce : a.force = false) {place : List Text} {bytes : List UInt8}
    (hfile : files.get? place = some (.file bytes)) :
    (call.result workingFolder files).files.get? place = some (.file bytes) := by
  rcases call.saves_of_result workingFolder files with
    hsame | ⟨invocation, path, text, hread, hresult, hsaves⟩
  · rw [hsame, afterGit_of_invocation? hcall]
    exact hfile
  · obtain rfl := Option.some.inj (hcall.symm.trans hread)
    obtain ⟨reply, hreply, hsave⟩ := hsaves.named
    obtain ⟨hpath, hfree⟩ := ConfigInitArguments.save_of_reply (a := a) hreply
    obtain rfl : Path.resolve workingFolder a.out = path :=
      congrArg Prod.fst (Option.some.inj (hpath.symm.trans hsave))
    have hframe := (hsound.saving_save (Path.resolve workingFolder a.out)
      (Utf8.encode text)).frame place
    rw [hresult, hsaves.files]
    rcases hframe with hsame | ⟨hplace, -, -⟩ | ⟨-, hnone, -⟩
    · exact hsame.trans hfile
    · -- Something stands where the path leads, so the command would have refused.
      rw [Path.place_resolve] at hplace
      have hthere : files.contains workingFolder.parts (Path.resolve workingFolder a.out) = true :=
        hsound.contains_resolve (by rw [← hplace, hfile]; simp)
      exact absurd (hthere.symm.trans (hfree hforce)) (by simp)
    · exact absurd (hnone.symm.trans hfile) (by simp)

theorem framed_result {call : Call} (hgit : call.GitLeavesSound workingFolder)
    (hsound : files.Sound workingFolder) : call.Framed workingFolder files where
  gitless := call.gitless_result
  asked := call.asked_result
  unwritten := by
    intro hnone
    rcases saving_result hgit hsound with hsame | ⟨path, htarget, -⟩
    · exact hsame
    · exact absurd (hnone.symm.trans htarget) (by simp)
  framed := by
    intro path htarget place
    rcases saving_result hgit hsound with hsame | ⟨path', htarget', hsaving⟩
    · exact Or.inl (by rw [hsame])
    · obtain rfl := Option.some.inj (htarget.symm.trans htarget')
      exact hsaving.frame place
  refused := fun _ => call.refused_result
  unforced := fun _ hcall hforce _ _ => unforced_result hsound hcall hforce

end Call

variable {workingFolder : Path} {files : FileTree}

/-- The files after calls one after another. -/
def session [Host] (workingFolder : Path) (files : FileTree) : List Call → FileTree
  | [] => files
  | call :: calls => session workingFolder (call.result workingFolder files).files calls

theorem sound_session [Host] (hsound : files.Sound workingFolder) {calls : List Call}
    (hgit : ∀ call ∈ calls, call.GitLeavesSound workingFolder) :
    (session workingFolder files calls).Sound workingFolder := by
  induction calls generalizing files with
  | nil => exact hsound
  | cons call calls ih =>
      exact ih (Call.sound_result (hgit call (by simp)) hsound)
        fun later hlater => hgit later (List.mem_cons_of_mem call hlater)

/-- A call of a session accounts for a change at a place: it was asked to make it, or it ran git and
git made it. -/
def Accounts [Host] (workingFolder : Path) (files : FileTree) (calls : List Call)
    (place : List Text) : Prop :=
  ∃ earlier call later, calls = earlier ++ call :: later ∧
    (call.Reaches workingFolder place ∨
      (call.afterGit workingFolder (session workingFolder files earlier)).get? place
        ≠ (session workingFolder files earlier).get? place)

/-- What is changed by a session is accounted for by a call of it. -/
theorem accounts_of_session [Host] (hsound : files.Sound workingFolder) {calls : List Call}
    (hgit : ∀ call ∈ calls, call.GitLeavesSound workingFolder) {place : List Text}
    (hchanged : (session workingFolder files calls).get? place ≠ files.get? place) :
    Accounts workingFolder files calls place := by
  induction calls generalizing files with
  | nil => exact absurd rfl hchanged
  | cons call calls ih =>
      have hfirst := hgit call (by simp)
      by_cases hsame : (call.result workingFolder files).files.get? place = files.get? place
      · -- The first call is not the one, so a later call is.
        rw [← hsame] at hchanged
        obtain ⟨earlier, accountable, later, rfl, haccount⟩ :=
          ih (Call.sound_result hfirst hsound)
            (fun later hlater => hgit later (List.mem_cons_of_mem call hlater)) hchanged
        exact ⟨call :: earlier, accountable, later, rfl, haccount⟩
      · refine ⟨[], call, calls, rfl, ?_⟩
        by_cases hgitted : (call.afterGit workingFolder files).get? place = files.get? place
        · rw [← hgitted] at hsame
          exact Or.inl (Call.reaches_of_result hfirst hsound hsame)
        · exact Or.inr hgitted

/-- **Commands write only what they are asked to write, but for what git does.**  In every session,
each call is framed, and whatever has changed at the end is a file that some call was asked to write
or a folder on the way to one, unless git has changed it. -/
theorem session_framed [Host] (hsound : files.Sound workingFolder) (calls : List Call)
    (hgit : ∀ call ∈ calls, call.GitLeavesSound workingFolder) :
    (∀ earlier call later, calls = earlier ++ call :: later →
      call.Framed workingFolder (session workingFolder files earlier)) ∧
    ∀ place, (session workingFolder files calls).get? place ≠ files.get? place →
      Accounts workingFolder files calls place := by
  refine ⟨fun earlier call later hcalls => ?_, fun _ => accounts_of_session hsound hgit⟩
  subst hcalls
  exact Call.framed_result (hgit call (by simp))
    (sound_session hsound fun c hc => hgit c (List.mem_append_left _ hc))

/-! ### A folder -/

/-- The folder of a session. -/
def home : Path := { start := .root, parts := ["home"] }

/-- A tree with one folder, and in it one file. -/
def smallTree : FileTree :=
  { entries := [(["home"], .folder), (["home", "notes"], .file [104, 105])] }

theorem sound_smallTree : smallTree.Sound home :=
  FileTree.sound_of_entries (by decide) (by decide) (by decide)

/-- What git does when one of its arguments names a file for the output: nothing to show is written
to this file. -/
def outputEffect (folder : Path) (arguments : List Text) (files : FileTree) : FileTree :=
  match arguments.findSome? (Text.dropStart? "--output=") with
  | none => files
  | some name => ((files.write folder.parts (Path.ofText name) []).toOption).getD files

/-- A review of what is between two revisions, the first of which is an option of git. -/
def outputCall : Call :=
  { arguments := ["review", "--base=--output=stolen", "--head=x"]
    git := .exited 0 [] none
    gitEffect := outputEffect }

theorem sound_write {path : Path} {bytes : List UInt8} {tree : FileTree}
    (hsound : files.Sound workingFolder)
    (h : files.write workingFolder.parts path bytes = .ok tree) : tree.Sound workingFolder := by
  unfold FileTree.write at h
  split at h
  · exact absurd h (by simp)
  · rename_i place hplace
    split at h
    · exact absurd h (by simp)
    · rename_i hfree
      rw [← Except.ok.inj h]
      exact hsound.set (hsound.locate_eq_ok hplace).2 hfree _

theorem gitLeavesSound_outputCall : outputCall.GitLeavesSound home := by
  intro files hsound
  have hread : outputCall.invocation?
      = some (.run (.review { base := some "--output=stolen", head := some "x" })) := rfl
  rw [Call.afterGit_of_invocation? hread]
  rcases Invocation.git_cases _ (outputCall.environment home files) with
    ⟨-, hsame⟩ | ⟨a, arguments, hruns⟩
  · rw [hsame]
    exact hsound
  · obtain rfl := Command.review.inj (Invocation.run.inj hruns.review)
    rw [hruns.after]
    show (outputEffect home arguments files).Sound home
    unfold outputEffect
    split
    · exact hsound
    · rename_i name _
      cases hwrite : files.write home.parts (Path.ofText name) [] with
      | error e => exact hsound
      | ok tree => exact sound_write hsound hwrite

/-- A session that writes a file into a new folder, refuses to write over another file, and has git
write one. -/
def smallSession : List Call :=
  [{ arguments := ["config-init", "--out", "new/starter.toml"] },
    { arguments := ["config-init", "--out", "notes"] }, outputCall]

theorem session_framed_small :
    smallTree.Sound home ∧ (∀ call ∈ smallSession, call.GitLeavesSound home) ∧
      (∀ call ∈ smallSession, ∃ earlier, call.Framed home (session home smallTree earlier)) ∧
      Accounts home smallTree smallSession ["home", "new"] := by
  have hgit : ∀ call ∈ smallSession, call.GitLeavesSound home := by
    intro call hcall
    simp only [smallSession, List.mem_cons, List.not_mem_nil, or_false] at hcall
    rcases hcall with rfl | rfl | rfl
    · exact fun _ hsound => hsound
    · exact fun _ hsound => hsound
    · exact gitLeavesSound_outputCall
  obtain ⟨hframed, hchanged⟩ := session_framed sound_smallTree smallSession hgit
  refine ⟨sound_smallTree, hgit, fun call hmem => ?_, hchanged ["home", "new"] (by decide +kernel)⟩
  obtain ⟨earlier, later, hcalls⟩ := List.append_of_mem hmem
  exact ⟨earlier, hframed earlier call later hcalls⟩

/-- **A command may change a file that it was not asked to write**, as git may take a revision for
an option. -/
theorem session_changed_by_git :
    smallTree.Sound home ∧ outputCall.GitLeavesSound home ∧ outputCall.target? home = none ∧
      (outputCall.result home smallTree).gitCalls
        = [(["git", "diff", "--no-color", "--no-ext-diff", "--unified=3", "--output=stolen..x"] :
            List Text)] ∧
      smallTree.get? ["home", "stolen..x"] = none ∧
      (session home smallTree [outputCall]).get? ["home", "stolen..x"] = some (.file []) :=
  ⟨sound_smallTree, gitLeavesSound_outputCall, rfl, by decide +kernel, by decide,
    by decide +kernel⟩

end PatchReview
