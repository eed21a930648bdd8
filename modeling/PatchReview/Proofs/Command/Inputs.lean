/-
Missing inputs.

The files that options name for a command are read in a fixed order, and the first of
them that is missing decides what comes of the command.  What is read before it is there,
so it either serves or is refused, and then the missing file itself is a reason to refuse
the command: unless it is the diff, on which the command breaks.

Little else is said about what is read before.  Some things break the command on their
own: a name that is too long to be looked up, a folder in the place of a file, a document
that is nested deeper than the stack bears, a hunk header with a numeral beyond the limit in
a diff that findings are held against, and git when it cannot be started or takes files
away.  `Readable` excludes these, and a file tree has nothing in it that is out of reach.
-/
import PatchReview.Proofs.Command.Git
import PatchReview.Proofs.Command.Refusal
import PatchReview.Proofs.Number.Decimal

namespace PatchReview

open CommandError (IsUsage)
open Outcome (ErrorsAre Fails errorsAre_mapError)

/-! ### Inputs -/

/-- A file that a command reads because an option names it. -/
inductive Input
  | configuration (path : Path)
  | diff (path : Path)
  | document (path : Path)

namespace Input

/-- Where an input is looked for. -/
def path : Input → Path
  | configuration path | diff path | document path => path

/-- A configuration is looked for in its repository. -/
def ofConfig (workingFolder repository : Path) (named : Option Path) : List Input :=
  named.toList.map fun path => configuration ((Path.resolve workingFolder repository).within path)

def ofDiff (named : Option Path) : List Input := named.toList.map diff

def ofDocument (named : Option Path) : List Input := named.toList.map document

end Input

/-- The inputs of a command, in the order in which they are read.  The findings of the previous run
are not among them, as there may be no previous run. -/
def Command.inputs (workingFolder : Path) : Command → List Input
  | review a =>
    Input.ofConfig workingFolder a.repository a.config ++ Input.ofDiff a.diffFile
      ++ Input.ofDocument a.rules ++ Input.ofDocument a.boundaries
  | rules a => Input.ofConfig workingFolder a.repository a.config ++ Input.ofDocument a.rules
  | validate a => [.document a.rules]
  | boundaries a => [.document a.boundaries]
  | normalize a => [.document a.input] ++ (Input.ofDiff a.diffFile ++ Input.ofDocument a.rules)
  | compare a => [.document a.current]
  | config a => Input.ofConfig workingFolder a.repository a.config
  | configInit _ => []

/-- The documents that options name for a command. -/
def Command.documents : Command → List Path
  | review a => a.rules.toList ++ a.boundaries.toList
  | rules a => a.rules.toList
  | validate a => [a.rules]
  | boundaries a => [a.boundaries]
  | normalize a => a.input :: a.rules.toList
  | compare a => [a.current, a.previous]
  | config _ | configInit _ => []

/-- The files in which a command may find its configuration. -/
def Command.configLookups (command : Command) (workingFolder : Path) : List Path :=
  match command.configured? with
  | none => []
  | some (repository, named) => Config.lookups (Path.resolve workingFolder repository) named

/-! ### What the system takes -/

/-- A text that the system takes: it is encoded in no more than so many bytes, and neither half a
surrogate pair nor a null character is in it. -/
def Text.Passable (limit : Nat) (t : Text) : Prop :=
  (Utf8.encode t).length ≤ limit ∧ ∀ c ∈ t, c.isSurrogate = false ∧ c.toNat ≠ 0

instance (limit : Nat) (t : Text) : Decidable (t.Passable limit) :=
  inferInstanceAs (Decidable (_ ∧ _))

/-- A path that can be looked up: no name in it is too long, and neither is the path. -/
def Path.CanBeLookedUp (path : Path) : Prop :=
  (∀ part ∈ path.parts, Text.Passable 255 part) ∧ Text.Passable 4095 path.text

instance (path : Path) : Decidable path.CanBeLookedUp := inferInstanceAs (Decidable (_ ∧ _))

/-- Where a place in the text of a document is, as far as it can be told line by line. -/
inductive DocumentPlace
  /-- Neither in a text nor in a comment. -/
  | plain
  /-- In a text that this quotation mark ends. -/
  | quoted (mark : CodePoint)
  /-- Behind a backslash in a text. -/
  | escaped
  /-- In a comment, which the end of the line ends. -/
  | comment
  /-- Behind the beginning of a text of many lines. -/
  | unknown

/-- How deep brackets are open in a document, from a place on where so many are.  Where it cannot be
told whether a bracket is part of a text, an opening one counts and a closing one does not. -/
def Text.nestingFrom : DocumentPlace → (depth : Nat) → Text → Nat
  | _, depth, [] => depth
  | .plain, depth, c :: t =>
    if c = '[' ∨ c = '\x7b' then nestingFrom .plain (depth + 1) t
    else if c = ']' ∨ c = '\x7d' then max depth (nestingFrom .plain (depth - 1) t)
    else if c = '"' ∨ c = '\'' then
      nestingFrom (if t.take 2 = [c, c] then .unknown else .quoted c) depth t
    else nestingFrom (if c = '#' then .comment else .plain) depth t
  | .quoted mark, depth, c :: t =>
    let place := if c = '\\' ∧ mark = '"' then .escaped else .quoted mark
    nestingFrom (if c = mark then .plain else place) depth t
  | .escaped, depth, _ :: t => nestingFrom (.quoted '"') depth t
  | .comment, depth, c :: t =>
    nestingFrom (if c = CodePoint.lineFeed then .plain else .comment) depth t
  | .unknown, depth, c :: t =>
    nestingFrom .unknown (if c = '[' ∨ c = '\x7b' then depth + 1 else depth) t

/-- How many brackets of a document are open at once, at most. -/
def Text.nesting (t : Text) : Nat := nestingFrom .plain 0 t

/-- What an error can be when this input is the first that is missing: a mistake on the command
line, or for a diff what comes of reading it. -/
def CommandError.ComesOf (e : CommandError) : Input → Prop
  | .diff path => e.IsUsage ∨ ∃ flaw, e = .file ⟨flaw, path⟩
  | .configuration _ | .document _ => e.IsUsage

theorem CommandError.IsUsage.comesOf {e : CommandError} (h : e.IsUsage) (missing : Input) :
    e.ComesOf missing := by
  cases missing with
  | diff => exact Or.inl h
  | configuration | document => exact h

namespace Environment

variable {env : Environment} {command : Command} {missing : Input}

/-- The first of some inputs that is missing. -/
def firstMissing? (env : Environment) (inputs : List Input) : Option Input :=
  inputs.find? fun input => env.lacks input.path

theorem firstMissing?_append (first rest : List Input) :
    env.firstMissing? (first ++ rest) = (env.firstMissing? first).or (env.firstMissing? rest) :=
  List.find?_append

theorem firstMissing?_map {make : Path → Input} {named : Option Path}
    (h : env.firstMissing? (named.toList.map make) = some missing) :
    ∃ path, named = some path ∧ missing = make path ∧ env.lacks (make path).path = true := by
  have hlacks := List.find?_some h
  obtain ⟨path, hpath, rfl⟩ := List.mem_map.mp (List.mem_of_find?_eq_some h)
  exact ⟨path, by simpa using hpath, rfl, hlacks⟩

theorem lacks_of_firstMissing? {path : Path}
    (h : env.firstMissing? [.document path] = some missing) : env.lacks path = true := by
  have hlacks := List.find?_some h
  rwa [List.mem_singleton.mp (List.mem_of_find?_eq_some h)] at hlacks

theorem fails_configuration_of_firstMissing? {repository : Path} {named : Option Path}
    (h : env.firstMissing? (Input.ofConfig env.workingFolder repository named) = some missing) :
    Fails IsUsage (env.configuration repository named) := by
  obtain ⟨path, rfl, -, hlacks⟩ := firstMissing?_map h
  exact fails_configuration hlacks

/-- The document at a path, if there is one, is not nested too deep. -/
def IsShallow (env : Environment) (path : Path) : Prop :=
  match env.files.read env.workingFolder.parts path with
  | .ok bytes => Text.nesting (Utf8.decodeLossy bytes) ≤ Host.commonNesting
  | .error _ => True

instance (env : Environment) (path : Path) : Decidable (env.IsShallow path) := by
  unfold IsShallow
  split <;> infer_instance

/-- A program can be started in a folder: the folder is there, or nothing is. -/
def CanStartIn (env : Environment) (folder : Path) : Prop :=
  match env.files.look env.workingFolder.parts folder with
  | .ok .folder | .error .missing => True
  | _ => False

/-- What a command looks at can be read.  Of these conditions those on names, on nesting and on
starting git are what the system asks for; the rest is used below. -/
structure Readable (env : Environment) (command : Command) : Prop where
  /-- The system can look up whatever the command looks up. -/
  names : ∀ path ∈ command.lookups env.workingFolder
    ++ command.policyLookups env.files env.workingFolder, path.CanBeLookedUp
  /-- No folder stands where a file is looked for. -/
  files : ∀ path ∈ command.lookups env.workingFolder
    ++ command.policyLookups env.files env.workingFolder, env.HasNoFolder path
  /-- The stack bears the documents. -/
  nesting : ∀ path ∈ command.documents ++ command.configLookups env.workingFolder
    ++ command.policyLookups env.files env.workingFolder, env.IsShallow path
  /-- No numeral of a diff that findings are held against is beyond the limit. -/
  diff : ∀ a path text, command = .normalize a → a.diffFile = some path →
    env.diffText path = .ok text → ∃ files, FileDiff.parse text = .ok files
  /-- Git, if it is run, can be started with its arguments in the repository. -/
  start : ∀ a arguments, command = .review a → Git.commandLine arguments ∈ command.gitCalls env →
    env.CanStartIn a.repository ∧ ∀ word ∈ arguments, Text.Passable 131071 word
  /-- Git, if it is run, leaves the files as they are. -/
  git : (command.afterGit env).files = env.files

namespace Readable

variable (h : env.Readable command) {repository : Path} {named : Option Path}

include h

theorem of_named {path : Path} (hpath : path ∈ command.namedPaths) : env.HasNoFolder path := by
  refine h.files path (List.mem_append_left _ ?_)
  unfold Command.lookups
  split
  · exact hpath
  · exact List.mem_append_left _ hpath

/-- A diff that is not missing is a file. -/
theorem diffFile (hnamed : ∀ path ∈ named, path ∈ command.namedPaths)
    (hthere : env.firstMissing? (Input.ofDiff named) = none) :
    ∀ path ∈ named, ∃ text, env.diffText path = .ok text := by
  intro path hpath
  obtain rfl := Option.mem_def.mp hpath
  have hlacks : env.lacks path = false := by
    simpa [firstMissing?, Input.ofDiff, Input.path] using hthere
  exact exists_diffText_eq_ok hlacks (h.of_named (hnamed path hpath))

theorem configuration (hconfigured : command.configured? = some (repository, named)) :
    ErrorsAre IsUsage (env.configuration repository named) := by
  refine configuration_errorsAre fun p hp => h.files p (List.mem_append_left _ ?_)
  unfold Command.lookups
  rw [hconfigured]
  exact List.mem_append_right _ hp

/-- A policy file, whether an option or the configuration names it, is no folder. -/
theorem policy (hconfigured : command.configured? = some (repository, named)) {config : Config}
    (hconfig : env.configuration repository named = .ok config) {explicit : Option Path}
    {configured : Option Text} (hexplicit : ∀ path ∈ explicit, path ∈ command.namedPaths)
    (hmem : ∀ t ∈ configured, t ∈ config.rules.toList ++ config.boundaries.toList) {path : Path}
    (hpath : env.policyPath repository explicit configured = some path) :
    env.HasNoFolder path := by
  cases explicit with
  | some p =>
      obtain rfl := Option.some.inj hpath
      exact h.of_named (hexplicit p rfl)
  | none =>
      obtain ⟨t, ht, rfl⟩ := Option.map_eq_some_iff.mp hpath
      refine h.files _ (List.mem_append_right _ ?_)
      unfold Command.policyLookups
      rw [hconfigured]
      simp only [Outcome.mapError_eq_ok.mp hconfig, Config.policyLookups]
      exact List.mem_map_of_mem (hmem t ht)

end Readable

end Environment

variable {env : Environment} {missing : Input}

open Environment

/-! ### A review -/

namespace ReviewArguments

variable {a : ReviewArguments} {job : ReviewJob}

theorem source_errorsAre (hcontext : ∀ n ∈ a.context, Decimal.isWritable n.natAbs = true)
    (range : Option GitRange) : ErrorsAre IsUsage (a.source range) := by
  rw [source]
  split
  · exact .ok _
  · split
    · exact .ok _
    · have hwritable : Decimal.isWritable (a.context.getD Git.defaultContext).natAbs = true := by
        cases hgiven : a.context with
        | none => decide +kernel
        | some n => exact hcontext n hgiven
      have harguments : Git.arguments (a.context.getD Git.defaultContext) range = .ok _ :=
        Outcome.bind_eq_ok.mpr ⟨_, if_pos hwritable, rfl⟩
      simp only [harguments]
      exact .ok _

theorem job_errorsAre (hconfig : ErrorsAre IsUsage (env.configuration a.repository a.config))
    (hcontext : ∀ n ∈ a.context, Decimal.isWritable n.natAbs = true) :
    ErrorsAre IsUsage (a.job env) := by
  refine .bind hconfig fun config _ => ?_
  refine .bind ?_ fun format _ => ?_
  · rw [outputFormat]
    split
    · exact .ok _
    · exact .ok _
    · exact OutputFormat.ofArgument_errorsAre _
  refine .bind ?_ fun failOn _ => ?_
  · rw [severityToFailOn]
    split
    · exact .ok _
    · split
      · exact .ok _
      · exact .error ⟨_, rfl⟩
  split
  · exact .error ⟨_, rfl⟩
  refine .bind ?_ fun range _ => .bind (source_errorsAre hcontext range) fun _ _ => .ok _
  rw [ReviewArguments.range]
  split
  · exact .ok _
  · exact .ok _
  · exact .error ⟨_, rfl⟩

theorem diff_errorsAre (h : a.job env = .ok job)
    (hdiff : ∀ path ∈ a.diffFile, ∃ text, env.diffText path = .ok text) :
    ErrorsAre IsUsage (job.source.diff env) := by
  cases hgiven : a.diffFile with
  | some path =>
      obtain ⟨text, htext⟩ := hdiff path hgiven
      rw [source_of_diffFile h hgiven, DiffSource.diff, htext]
      exact .ok _
  | none =>
      obtain ⟨-, range, hsource⟩ := of_job h
      rw [source, hgiven] at hsource
      simp only at hsource
      split at hsource
      · rw [← Except.ok.inj hsource]
        exact .ok _
      · obtain ⟨arguments, -, hsource⟩ := Outcome.bind_eq_ok.mp hsource
        rw [← Outcome.pure_eq_ok.mp hsource]
        exact errorsAre_mapError fun e => ⟨_, rfl⟩

theorem reply_fails [Host] (hreadable : env.Readable (.review a))
    (hcontext : ∀ n ∈ a.context, Decimal.isWritable n.natAbs = true)
    (h : env.firstMissing? ((Command.review a).inputs env.workingFolder) = some missing) :
    Fails (·.ComesOf missing) (a.reply env) := by
  have hjob := job_errorsAre (hreadable.configuration rfl) hcontext
  have hdiffNamed : ∀ path ∈ a.diffFile, path ∈ (Command.review a).namedPaths := fun path hpath =>
    by simp [Command.namedPaths, Option.mem_def.mp hpath]
  have hrulesNamed : ∀ path ∈ a.rules, path ∈ (Command.review a).namedPaths := fun path hpath =>
    by simp [Command.namedPaths, Option.mem_def.mp hpath]
  simp only [Command.inputs, firstMissing?_append, Option.or_eq_some_iff,
    Option.or_eq_none_iff] at h
  rcases h with ((hconfig | ⟨-, hdiff⟩) | ⟨⟨-, hdiff⟩, hrules⟩) | ⟨⟨⟨-, hdiff⟩, -⟩, hboundaries⟩
  · have hrefused := fails_configuration_of_firstMissing? hconfig
    exact (hrefused.bind.bind).imp fun e he => he.comesOf missing
  · obtain ⟨path, hgiven, rfl, hlacks⟩ := firstMissing?_map hdiff
    obtain ⟨flaw, hflaw⟩ := diffText_of_lacks hlacks
    refine .behind (hjob.imp fun e he => he.comesOf _) fun job hsettled => .bind (.bind ?_)
    rw [source_of_diffFile hsettled hgiven]
    exact ⟨_, hflaw, Or.inr ⟨flaw, rfl⟩⟩
  · obtain ⟨path, hgiven, rfl, hlacks⟩ := firstMissing?_map hrules
    refine .behind hjob fun job hsettled => .bind ?_
    refine .behind (diff_errorsAre hsettled (hreadable.diffFile hdiffNamed hdiff)) fun text _ => ?_
    rw [afterDiff_eq hreadable.git hsettled, hgiven]
    exact .bind (fails_document "Rules" hlacks)
  · obtain ⟨path, hgiven, rfl, hlacks⟩ := firstMissing?_map hboundaries
    refine .behind hjob fun job hsettled => .bind ?_
    refine .behind (diff_errorsAre hsettled (hreadable.diffFile hdiffNamed hdiff)) fun text _ => ?_
    rw [afterDiff_eq hreadable.git hsettled]
    refine .behind (optionalDocument_errorsAre "Rules" fun path hpath => ?_) fun rules _ => ?_
    · exact hreadable.policy rfl (of_job hsettled).1 hrulesNamed
        (fun t ht => List.mem_append_left _ (Option.mem_toList.mpr ht)) hpath
    · rw [hgiven]
      exact .bind (fails_document "Boundaries" hlacks)

end ReviewArguments

/-! ### Findings -/

namespace NormalizeArguments

variable [Host] {input diffFile rules : Path}

/-- Findings that are held against rules which are missing. -/
theorem gated_fails (hreadable : env.Readable (.normalize ⟨input, some diffFile, some rules⟩))
    (raw : Json) (hdiff : env.firstMissing? (Input.ofDiff (some diffFile)) = none)
    (hrules : env.lacks rules = true) : Fails IsUsage (gated raw env diffFile rules) := by
  have hnamed : ∀ path ∈ some diffFile,
      path ∈ (Command.normalize ⟨input, some diffFile, some rules⟩).namedPaths := by
    rintro path ⟨⟩
    simp [Command.namedPaths]
  obtain ⟨text, htext⟩ := hreadable.diffFile hnamed hdiff diffFile rfl
  obtain ⟨files, hfiles⟩ := hreadable.diff _ diffFile text rfl rfl htext
  rw [gated, htext]
  refine .behind (.ok text) fun text' htext' => ?_
  obtain rfl := Except.ok.inj htext'
  rw [hfiles]
  exact .behind (.ok files) fun _ _ => .bind (fails_document "Rules" hrules)

theorem reply_fails {a : NormalizeArguments} (hreadable : env.Readable (.normalize a))
    (h : env.firstMissing? ((Command.normalize a).inputs env.workingFolder) = some missing) :
    Fails (·.ComesOf missing) (a.reply env) := by
  have hnamed : a.input ∈ (Command.normalize a).namedPaths := by simp [Command.namedPaths]
  have hraw := document_errorsAre "Findings" (hreadable.of_named hnamed)
  simp only [Command.inputs, firstMissing?_append, Option.or_eq_some_iff] at h
  rcases h with hinput | ⟨-, hbehind⟩
  · have hrefused := fails_document "Findings" (lacks_of_firstMissing? hinput)
    exact (hrefused.bind.bind).imp fun e he => he.comesOf missing
  obtain ⟨input, _ | diffFile, _ | rules⟩ := a
  · exact absurd hbehind (by simp [Input.ofDiff, Input.ofDocument, firstMissing?])
  · -- Without a diff the rules are of no use, and the other way round.
    refine (Fails.bind (.behind hraw fun _ _ => ?_)).imp fun e he => he.comesOf missing
    exact ⟨_, rfl, _, rfl⟩
  · refine (Fails.bind (.behind hraw fun _ _ => ?_)).imp fun e he => he.comesOf missing
    exact ⟨_, rfl, _, rfl⟩
  rcases hbehind with hdiff | ⟨hdiff, hrules⟩
  · obtain ⟨path, hgiven, rfl, hlacks⟩ := firstMissing?_map hdiff
    obtain rfl := Option.some.inj hgiven
    obtain ⟨flaw, hflaw⟩ := diffText_of_lacks hlacks
    refine .bind (.behind (hraw.imp fun e he => he.comesOf _) fun raw _ => .bind ?_)
    exact ⟨_, hflaw, Or.inr ⟨flaw, rfl⟩⟩
  · obtain ⟨path, hgiven, rfl, hlacks⟩ := firstMissing?_map hrules
    obtain rfl := Option.some.inj hgiven
    exact .bind (.behind hraw fun raw _ => gated_fails hreadable raw hdiff hlacks)

end NormalizeArguments

theorem CompareArguments.reply_fails {a : CompareArguments} (h : env.lacks a.current = true) :
    Fails IsUsage (a.reply env) :=
  .behind (OutputFormat.ofArgument_errorsAre _) fun _ _ =>
    .bind (.bind (fails_document "Findings" h))

/-! ### Policies and configurations -/

theorem RulesArguments.reply_fails {a : RulesArguments} (hreadable : env.Readable (.rules a))
    (h : env.firstMissing? ((Command.rules a).inputs env.workingFolder) = some missing) :
    Fails IsUsage (a.reply env) := by
  refine .behind (OutputFormat.ofArgument_errorsAre _) fun format _ => ?_
  simp only [Command.inputs, firstMissing?_append, Option.or_eq_some_iff] at h
  rcases h with hconfig | ⟨-, hrules⟩
  · exact .bind (fails_configuration_of_firstMissing? hconfig)
  · obtain ⟨path, hgiven, rfl, hlacks⟩ := firstMissing?_map hrules
    refine .behind (hreadable.configuration rfl) fun config _ => ?_
    rw [hgiven]
    exact .bind (fails_document "Rules" hlacks)

theorem ValidateArguments.reply_fails {a : ValidateArguments} (h : env.lacks a.rules = true) :
    Fails IsUsage (a.reply env) :=
  .behind (OutputFormat.ofArgument_errorsAre _) fun _ _ => .bind (fails_document "Rules" h)

theorem BoundariesArguments.reply_fails {a : BoundariesArguments}
    (h : env.lacks a.boundaries = true) : Fails IsUsage (a.reply env) :=
  .behind (OutputFormat.ofArgument_errorsAre _) fun _ _ => .bind (fails_document "Boundaries" h)

theorem ConfigArguments.reply_fails {a : ConfigArguments}
    (h : env.firstMissing? ((Command.config a).inputs env.workingFolder) = some missing) :
    Fails IsUsage (a.reply env) :=
  .behind (OutputFormat.ofArgument_errorsAre _) fun _ _ =>
    .bind (fails_configuration_of_firstMissing? h)

/-! ### Command lines -/

namespace Invocation

variable {arguments : List Text}

/-- A command is given the arguments that are read from the command line. -/
theorem exists_arguments {command : Command} (h : ofArguments arguments = .ok (.run command)) :
    ∃ (name : CommandName) (given : Arguments), command = name.command given := by
  unfold ofArguments at h
  split at h
  · exact absurd (Outcome.pure_eq_ok.mp h) (by simp)
  obtain ⟨own, -, h⟩ := Outcome.bind_eq_ok.mp h
  split at h
  · exact absurd (Outcome.pure_eq_ok.mp h) (by simp)
  split at h
  · exact absurd (Outcome.pure_eq_ok.mp h) (by simp)
  unfold ofWords at h
  split at h
  · exact absurd h (by simp)
  split at h
  · rename_i name _
    obtain ⟨given, -, h⟩ := Outcome.bind_eq_ok.mp h
    split at h
    · exact absurd (Outcome.pure_eq_ok.mp h) (by simp)
    obtain ⟨-, -, h⟩ := Outcome.bind_eq_ok.mp h
    exact ⟨name, given, (Invocation.run.inj (Outcome.pure_eq_ok.mp h)).symm⟩
  · exact absurd h (by simp)

/-- Lines of context are given by a numeral that has been read, so their number can be written. -/
theorem isWritable_context {a : ReviewArguments}
    (h : ofArguments arguments = .ok (.run (.review a))) :
    ∀ n ∈ a.context, Decimal.isWritable n.natAbs = true := by
  obtain ⟨name, given, hcommand⟩ := exists_arguments h
  cases name with
  | review =>
      obtain rfl := Command.review.inj hcommand
      intro n hn
      obtain ⟨t, -, ht⟩ := Option.bind_eq_some_iff.mp (Option.mem_def.mp hn)
      exact Decimal.isWritable_of_ofText? ht
  | rules | validate | boundaries | normalize | compare | config | configInit =>
      exact absurd hcommand (by simp [CommandName.command])

end Invocation

namespace Environment

variable {arguments : List Text} {command : Command}

theorem run_fails [Host] {kind : CommandError → Prop}
    (hrun : Invocation.ofArguments arguments = .ok (.run command))
    (h : Fails kind (command.reply env)) : Fails kind (env.run arguments).outcome := by
  obtain ⟨e, he, hkind⟩ := h
  have hreply : (Invocation.run command).reply env = .error e := he
  refine ⟨e, ?_, hkind⟩
  rw [run, hrun]
  simp only [runInvocation, hreply]

/-- A folder with a diff, with findings, and with rules. -/
def smallFolder : Environment where
  files :=
    { entries :=
        [(["home"], .folder), (["home", "d"], .file (Utf8.encode "+++ b/a")),
          (["home", "f"], .file (Utf8.encode "[]")),
          (["home", "r"], .file (Utf8.encode "\x7b\x7d"))] }
  workingFolder := { start := .root, parts := ["home"] }
  runId := []
  time := []

/-- A review of a diff by some rules. -/
def reviewBy (diff rules : Text) : ReviewArguments :=
  { diffFile := some (Path.ofText diff), rules := some (Path.ofText rules) }

/-- Findings that are held against a diff and some rules. -/
def normalizeBy (diff rules : Text) : NormalizeArguments :=
  { input := Path.ofText "f", diffFile := some (Path.ofText diff)
    rules := some (Path.ofText rules) }

/-- The paths that the command looks up in the folder can be looked up, and what it finds there is
files that are not nested too deep. -/
def FindsFiles (command : Command) : Prop :=
  (∀ path ∈ command.lookups smallFolder.workingFolder
    ++ command.policyLookups smallFolder.files smallFolder.workingFolder,
      path.CanBeLookedUp ∧ smallFolder.HasNoFolder path) ∧
  ∀ path ∈ command.documents ++ command.configLookups smallFolder.workingFolder
    ++ command.policyLookups smallFolder.files smallFolder.workingFolder, smallFolder.IsShallow path

instance (command : Command) : Decidable (FindsFiles command) :=
  inferInstanceAs (Decidable (_ ∧ _))

theorem readable_reviewBy {diff rules : Text} (h : FindsFiles (.review (reviewBy diff rules)))
    (hgit : (Command.review (reviewBy diff rules)).gitCalls smallFolder = [])
    (hafter : ((Command.review (reviewBy diff rules)).afterGit smallFolder).files
      = smallFolder.files) :
    smallFolder.Readable (.review (reviewBy diff rules)) where
  names path hpath := (h.1 path hpath).1
  files path hpath := (h.1 path hpath).2
  nesting := h.2
  diff a path text hcommand := by simp at hcommand
  start a arguments hcommand hcall := by simp [hgit] at hcall
  git := hafter

/-- A command line with no flaw but that its diff is missing breaks on it instead of being
refused. -/
structure BreaksOn (env : Environment) (arguments : List Text) (command : Command) (diff : Path) :
    Prop where
  run : Invocation.ofArguments arguments = .ok (.run command)
  readable : env.Readable command
  missing : (command.inputs env.workingFolder).filter (fun input => env.lacks input.path)
    = [.diff diff]
  breaks : (env.run arguments).outcome = .error (.file ⟨.missing, diff⟩)
  notRefused : ¬Fails IsUsage (env.run arguments).outcome

end Environment

end PatchReview
