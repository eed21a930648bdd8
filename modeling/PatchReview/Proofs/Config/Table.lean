/-
A configuration is accepted exactly when its table is well typed.

The fields of a table are checked one after another, and the first one that does not fit is
reported.  What a field may hold is said here once for all fields, by `Field.Admits`, without
the order of the checks and without their results.  Each check is accounted for: it comes to a
result that carries the value of its field, or its error names a field that does not fit.  That
is kept when checks are chained, so the check of a whole table is accounted for as well.

The format and the severity to fail on are taken from the text of any value.  That text is one
of the words that are asked for only if the value is a string, and a word that is asked for has
only letters of ASCII and no `k`, so that its letter case is a matter of ASCII.
-/
import PatchReview.Config.Load
import PatchReview.Proofs.Report.ExitCode
import PatchReview.Proofs.Toml.Text

namespace PatchReview

/-! ### Words -/

theorem OutputFormat.ofText?_eq_json_iff {word : Text} :
    ofText? word = some json ↔ Text.lower word = json.name :=
  Text.find?_asciiLower_iff (by decide) (by decide)

namespace Config

variable {v : Toml} {t word : Text}

/-- The words that are asked for. -/
def words : List Text := OutputFormat.json.name :: FailOn.all.map FailOn.name

theorem letters_of_mem_words : ∀ word ∈ words, ∀ c ∈ word,
    c.isAsciiLetter = true ∧ c.toNat < 128 ∧ c ≠ CodePoint.ofChar 'k' := by
  decide

theorem lower_not_mem_words_of_hasMark (h : t.HasMark) : Text.lower t ∉ words := by
  intro hword
  obtain ⟨c, hc, hmark⟩ := h
  have hletters := letters_of_mem_words _ hword
  have hascii : Text.asciiLower t = Text.lower t :=
    (Text.lower_eq_iff fun d hd => (hletters d hd).2).mp rfl
  have hmem : c.asciiLower ∈ Text.lower t := hascii ▸ List.mem_map_of_mem hc
  have hletter := CodePoint.isAsciiLetter_of_asciiLower (hletters _ hmem).1
  exact absurd hletter (by simp [hmark])

/-- **Only a string has one of the words for its text.** -/
theorem eq_string_of_shows_word (h : v.Shows t) (hword : Text.lower t ∈ words) :
    v = .string t := by
  have hother : ∀ s ∈ (["True", "False", "inf", "nan"] : List Text), Text.lower s ∉ words := by
    decide
  rcases h.cases_letters with hstring | hmark | hletters
  · exact hstring
  · exact absurd hword (lower_not_mem_words_of_hasMark hmark)
  · exact absurd hword (hother t hletters)

/-- A value spells a word if the word is its text in small letters. -/
def Spells (v : Toml) (word : Text) : Prop := ∃ t, v.Shows t ∧ Text.lower t = word

theorem spells_iff (hword : word ∈ words) :
    Spells v word ↔ ∃ t, v = .string t ∧ Text.lower t = word := by
  constructor
  · rintro ⟨t, hshows, rfl⟩
    exact ⟨t, eq_string_of_shows_word hshows hword, rfl⟩
  · rintro ⟨t, rfl, hlower⟩
    exact ⟨t, .string t, hlower⟩

/-! ### Well typed tables -/

/-- The fields that are checked; the last three stand in a table of their own. -/
inductive Field
  | engine
  | failOn
  | maxFindings
  | rules
  | boundaries
  | strictSignals
  | capPerFile
  | capTotal
deriving DecidableEq, Repr

/-- The table with the options of the review; a missing one is empty. -/
def engineTable (table : Toml.Fields) : Toml.Fields :=
  ((table.get? "engine").bind Toml.fields?).getD []

/-- A whole number above zero. -/
def IsCount (v : Toml) : Prop := ∃ n : Int, v = .integer n ∧ 0 < n

namespace Field

/-- The name of a field in messages. -/
def name : Field → Text
  | engine => "engine"
  | failOn => "fail_on"
  | maxFindings => "max_findings"
  | rules => "rules"
  | boundaries => "boundaries"
  | strictSignals => "engine.strict_signals"
  | capPerFile => "engine.cap_per_rule_per_file"
  | capTotal => "engine.cap_per_rule_total"

/-- What a table holds in a field. -/
def value? (table : Toml.Fields) : Field → Option Toml
  | engine => table.get? "engine"
  | failOn => table.get? "fail_on"
  | maxFindings => table.get? "max_findings"
  | rules => table.get? "rules"
  | boundaries => table.get? "boundaries"
  | strictSignals => (engineTable table).get? "strict_signals"
  | capPerFile => (engineTable table).get? "cap_per_rule_per_file"
  | capTotal => (engineTable table).get? "cap_per_rule_total"

/-- The values that a field may hold. -/
def Admits : Field → Toml → Prop
  | engine => fun v => ∃ fields, v = .table fields
  | failOn => fun v => ∃ choice : FailOn, Spells v choice.name
  | maxFindings | capPerFile | capTotal => IsCount
  | rules | boundaries => fun v => ∃ t, v = .string t
  | strictSignals => fun v => ∃ b, v = .boolean b

/-- A field is missing or holds a value that it may hold. -/
def Fits (field : Field) (table : Toml.Fields) : Prop := ∀ v ∈ field.value? table, field.Admits v

end Field

/-- Every field of a table is missing or holds a value that it may hold. -/
def WellTyped (table : Toml.Fields) : Prop := ∀ field : Field, field.Fits table

/-- The values that are taken as texts have one. -/
def HasTexts (table : Toml.Fields) : Prop :=
  ∀ key ∈ (["format", "fail_on"] : List Text), ∀ v ∈ table.get? key, ∃ t, v.Shows t

/-- Options hold what the table of the options says. -/
structure CarriesOptions (engine : Toml.Fields) (options : ReviewOptions) : Prop where
  strictSignals : Toml.boolean options.strictSignals
    = (engine.get? "strict_signals").getD (.boolean false)
  capPerFile : options.capPerFile.map Toml.integer = engine.get? "cap_per_rule_per_file"
  capTotal : options.capTotal.map Toml.integer = engine.get? "cap_per_rule_total"

/-- A configuration holds what a table says, and nothing else. -/
structure Carries (table : Toml.Fields) (source : Path) (config : Config) : Prop where
  format : config.format = .json ↔ ∃ v ∈ table.get? "format", Spells v "json"
  failOn : ∀ choice : FailOn,
    config.failOn = some choice ↔ ∃ v ∈ table.get? "fail_on", Spells v choice.name
  maxFindings : config.maxFindings.map Toml.integer = table.get? "max_findings"
  rules : config.rules.map Toml.string = table.get? "rules"
  boundaries : config.boundaries.map Toml.string = table.get? "boundaries"
  options : CarriesOptions (engineTable table) config.options
  source : config.source = some source

/-- Reviews with a configuration have real limits, and always an exit code. -/
structure Safe (config : Config) : Prop where
  maxFindings : ∀ n ∈ config.maxFindings, 0 < n
  capPerFile : ∀ n ∈ config.options.capPerFile, 0 < n
  capTotal : ∀ n ∈ config.options.capTotal, 0 < n
  exitCode : ∀ top : Option Severity, ∃ code,
    ExitCode.of (top.map Severity.name) (config.failOn.map FailOn.name) = .ok code

/-! ### The checks -/

/-- An error is right about a table: the field that it names does not fit, or one of the values that
are taken as texts has none. -/
def IsRight (table : Toml.Fields) : TableError → Prop
  | .field name _ => ∃ field : Field, field.name = name ∧ ¬field.Fits table
  | .numeral _ => ¬HasTexts table

/-- A check is accounted for: its result is of this kind, or its error is right. -/
def Accounted {α : Type} (table : Toml.Fields) (kind : α → Prop) : Except TableError α → Prop
  | .ok a => kind a
  | .error e => IsRight table e

namespace Accounted

variable {α β : Type} {table : Toml.Fields} {kind : α → Prop} {kind' : β → Prop}

theorem bind {x : Except TableError α} {f : α → Except TableError β}
    (hx : Accounted table kind x) (hf : ∀ a, kind a → Accounted table kind' (f a)) :
    Accounted table kind' (x >>= f) := by
  cases x with
  | error e => exact hx
  | ok a => exact hf a hx

end Accounted

variable {table : Toml.Fields} {field : Field}

theorem Field.fits_of_none (h : field.value? table = none) : field.Fits table := by
  intro v hv
  exact absurd (h.symm.trans hv) (by simp)

theorem Field.fits_iff_of_some (h : field.value? table = some v) :
    field.Fits table ↔ field.Admits v := by
  constructor
  · exact fun hfits => hfits v h
  · intro hadmits w hw
    rw [← Option.some.inj (h.symm.trans hw)]
    exact hadmits

/-- A field that is refused for its value does not fit. -/
theorem Field.isRight_of_not_admits (h : field.value? table = some v) (hnot : ¬field.Admits v)
    (flaw : FieldFlaw) : IsRight table (.field field.name flaw) :=
  ⟨field, rfl, fun hfits => hnot ((fits_iff_of_some h).mp hfits)⟩

theorem accounted_tableField :
    Accounted table (fun fields => Field.engine.Fits table ∧ fields = engineTable table)
      (tableField "engine" (table.get? "engine")) := by
  unfold engineTable
  cases h : table.get? "engine" with
  | none => exact ⟨Field.fits_of_none h, rfl⟩
  | some v =>
      have hvalue : Field.engine.value? table = some v := h
      cases v with
      | table fields => exact ⟨(Field.fits_iff_of_some hvalue).mpr ⟨fields, rfl⟩, rfl⟩
      | string | integer | float | boolean | dateTime | array =>
          refine Field.isRight_of_not_admits hvalue ?_ .tableExpected
          rintro ⟨fields, hfields⟩
          cases hfields

theorem accounted_countField (hadmits : field.Admits = IsCount) :
    Accounted table (fun n => field.Fits table ∧ n.map Toml.integer = field.value? table)
      (countField field.name (field.value? table)) := by
  cases h : field.value? table with
  | none => exact ⟨Field.fits_of_none h, rfl⟩
  | some v =>
      have hfits := Field.fits_iff_of_some h
      have hrefused := Field.isRight_of_not_admits h
      rw [hadmits] at hfits hrefused
      cases v with
      | integer n =>
          rw [countField]
          split
          · rename_i hpos
            exact ⟨hfits.mpr ⟨n, rfl, hpos⟩, rfl⟩
          · rename_i hnot
            refine hrefused ?_ .positiveExpected
            rintro ⟨m, hm, hpos⟩
            cases hm
            exact hnot hpos
      | string | float | boolean | dateTime | array | table =>
          refine hrefused ?_ .integerExpected
          rintro ⟨n, hn, -⟩
          cases hn

theorem accounted_stringField (hadmits : field.Admits = fun v => ∃ t, v = .string t) :
    Accounted table (fun t => field.Fits table ∧ t.map Toml.string = field.value? table)
      (stringField field.name (field.value? table)) := by
  cases h : field.value? table with
  | none => exact ⟨Field.fits_of_none h, rfl⟩
  | some v =>
      have hfits := Field.fits_iff_of_some h
      have hrefused := Field.isRight_of_not_admits h
      rw [hadmits] at hfits hrefused
      cases v with
      | string t => exact ⟨hfits.mpr ⟨t, rfl⟩, rfl⟩
      | integer | float | boolean | dateTime | array | table =>
          refine hrefused ?_ .stringExpected
          rintro ⟨t, ht⟩
          cases ht

theorem accounted_switchField (hadmits : field.Admits = fun v => ∃ b, v = .boolean b) :
    Accounted table
      (fun b => field.Fits table ∧ Toml.boolean b = (field.value? table).getD (.boolean false))
      (switchField field.name (field.value? table)) := by
  cases h : field.value? table with
  | none => exact ⟨Field.fits_of_none h, rfl⟩
  | some v =>
      have hfits := Field.fits_iff_of_some h
      have hrefused := Field.isRight_of_not_admits h
      rw [hadmits] at hfits hrefused
      cases v with
      | boolean b => exact ⟨hfits.mpr ⟨b, rfl⟩, rfl⟩
      | string | integer | float | dateTime | array | table =>
          refine hrefused ?_ .booleanExpected
          rintro ⟨b, hb⟩
          cases hb

/-- What is found for the word of a value is what the value spells. -/
theorem bind_eq_some_iff_spells {α : Type} {parse : Text → Option α} {a : α} {word? : Option Text}
    (hword? : ∀ t, word? = some t ↔ v = .string t) (hword : word ∈ words)
    (hparse : ∀ t, parse t = some a ↔ Text.lower t = word) :
    word?.bind parse = some a ↔ Spells v word := by
  rw [spells_iff hword, Option.bind_eq_some_iff]
  simp only [hword?, hparse]

theorem accounted_formatField :
    Accounted table (fun format => format = .json ↔ ∃ v ∈ table.get? "format", Spells v "json")
      (formatField (table.get? "format")) := by
  cases h : table.get? "format" with
  | none => simp [formatField, Accounted]
  | some v =>
      rcases v.word?_cases with ⟨word?, hok, hword?⟩ | ⟨⟨e, he⟩, htext⟩
      · have hspells : word?.bind OutputFormat.ofText? = some .json ↔ Spells v "json" :=
          bind_eq_some_iff_spells hword? (by decide) fun _ => OutputFormat.ofText?_eq_json_iff
        have hformat : formatField (some v)
            = .ok ((word?.bind OutputFormat.ofText?).getD .human) := by
          rw [formatField, hok]
          rfl
        have hjson : ∀ found : Option OutputFormat,
            found.getD .human = .json ↔ found = some .json := by
          intro found
          cases found with
          | none => simp
          | some format => simp
        rw [hformat]
        simpa [Accounted, hjson] using hspells
      · rw [formatField, he]
        exact fun htexts => htext (htexts "format" (by simp) v h)

theorem accounted_failOnField :
    Accounted table
      (fun failOn => Field.failOn.Fits table ∧ ∀ choice : FailOn,
        failOn = some choice ↔ ∃ v ∈ table.get? "fail_on", Spells v choice.name)
      (failOnField (table.get? "fail_on")) := by
  cases h : table.get? "fail_on" with
  | none => exact ⟨Field.fits_of_none h, by simp⟩
  | some v =>
      have hvalue : Field.failOn.value? table = some v := h
      rcases v.word?_cases with ⟨word?, hok, hword?⟩ | ⟨⟨e, he⟩, htext⟩
      · have hspells : ∀ choice : FailOn,
            word?.bind FailOn.ofText? = some choice ↔ Spells v choice.name := by
          intro choice
          have hword : choice.name ∈ words := by
            cases choice with
            | never | major | critical => decide
          exact bind_eq_some_iff_spells hword? hword fun _ => FailOn.ofText?_eq_some_iff
        cases hfound : word?.bind FailOn.ofText? with
        | some choice =>
            have hresult : failOnField (some v) = .ok (some choice) := by
              rw [failOnField, hok]
              simp only [Except.mapError, bind, Except.bind, hfound]
              rfl
            have hadmits : Field.failOn.Admits v := ⟨choice, (hspells choice).mp hfound⟩
            rw [hresult]
            refine ⟨(Field.fits_iff_of_some hvalue).mpr hadmits, fun other => ?_⟩
            rw [← hfound, hspells]
            simp
        | none =>
            have hresult : failOnField (some v)
                = .error (.field "fail_on" (.choiceExpected FailOn.choices)) := by
              rw [failOnField, hok]
              simp only [Except.mapError, bind, Except.bind, hfound]
              rfl
            rw [hresult]
            refine Field.isRight_of_not_admits hvalue ?_ (.choiceExpected FailOn.choices)
            rintro ⟨choice, hchoice⟩
            exact absurd ((hspells choice).mpr hchoice) (by simp [hfound])
      · rw [failOnField, he]
        exact fun htexts => htext (htexts "fail_on" (by simp) v h)

theorem accounted_optionsOfTable :
    Accounted table
      (fun options => CarriesOptions (engineTable table) options ∧ Field.strictSignals.Fits table ∧
        Field.capPerFile.Fits table ∧ Field.capTotal.Fits table)
      (optionsOfTable (engineTable table)) := by
  have hstrict := @accounted_switchField table .strictSignals rfl
  have hperFile := @accounted_countField table .capPerFile rfl
  have htotal := @accounted_countField table .capTotal rfl
  refine hstrict.bind fun strictSignals ⟨hfits, hvalue⟩ => ?_
  refine hperFile.bind fun capPerFile ⟨hfitsPerFile, hvaluePerFile⟩ => ?_
  refine htotal.bind fun capTotal ⟨hfitsTotal, hvalueTotal⟩ => ?_
  exact ⟨⟨hvalue, hvaluePerFile, hvalueTotal⟩, hfits, hfitsPerFile, hfitsTotal⟩

/-- **The check of a table is accounted for.** -/
theorem accounted_ofTable (table : Toml.Fields) (source : Path) :
    Accounted table (fun config => WellTyped table ∧ Carries table source config)
      (ofTable table source) := by
  have hmax := @accounted_countField table .maxFindings rfl
  have hrules := @accounted_stringField table .rules rfl
  have hboundaries := @accounted_stringField table .boundaries rfl
  refine accounted_tableField.bind fun engine ⟨hfitsEngine, hengine⟩ => ?_
  subst hengine
  refine accounted_formatField.bind fun format hformat => ?_
  refine accounted_failOnField.bind fun failOn ⟨hfitsFailOn, hfailOn⟩ => ?_
  refine hmax.bind fun maxFindings ⟨hfitsMax, hmaxFindings⟩ => ?_
  refine hrules.bind fun rules ⟨hfitsRules, hrules⟩ => ?_
  refine hboundaries.bind fun boundaries ⟨hfitsBoundaries, hboundaries⟩ => ?_
  refine accounted_optionsOfTable.bind fun options ⟨hoptions, hfitsEngineFields⟩ => ?_
  obtain ⟨hfitsStrict, hfitsFile, hfitsTotal⟩ := hfitsEngineFields
  refine ⟨fun field => ?_, ?_⟩
  · cases field with
    | engine => exact hfitsEngine
    | failOn => exact hfitsFailOn
    | maxFindings => exact hfitsMax
    | rules => exact hfitsRules
    | boundaries => exact hfitsBoundaries
    | strictSignals => exact hfitsStrict
    | capPerFile => exact hfitsFile
    | capTotal => exact hfitsTotal
  · exact ⟨hformat, hfailOn, hmaxFindings, hrules, hboundaries, hoptions, rfl⟩

/-! ### Accepted configurations -/

/-- A table says at most one configuration. -/
theorem Carries.unique {source : Path} {config other : Config} (h : Carries table source config)
    (hother : Carries table source other) : other = config := by
  have hformat : other.format = config.format := by
    have hjson := hother.format.trans h.format.symm
    cases hleft : other.format with
    | human =>
        cases hright : config.format with
        | human => rfl
        | json => exact absurd (hjson.mpr hright) (by simp [hleft])
    | json => exact (hjson.mp hleft).symm
  have hfailOn : other.failOn = config.failOn :=
    Option.ext fun choice => (hother.failOn choice).trans (h.failOn choice).symm
  have hinteger : Function.Injective (Option.map Toml.integer) :=
    Option.map_injective fun _ _ heq => Toml.integer.inj heq
  have hstring : Function.Injective (Option.map Toml.string) :=
    Option.map_injective fun _ _ heq => Toml.string.inj heq
  have hmaxFindings := hinteger (hother.maxFindings.trans h.maxFindings.symm)
  have hrules := hstring (hother.rules.trans h.rules.symm)
  have hboundaries := hstring (hother.boundaries.trans h.boundaries.symm)
  have hstrict := Toml.boolean.inj (hother.options.strictSignals.trans h.options.strictSignals.symm)
  have hperFile := hinteger (hother.options.capPerFile.trans h.options.capPerFile.symm)
  have htotal := hinteger (hother.options.capTotal.trans h.options.capTotal.symm)
  have hsource := hother.source.trans h.source.symm
  show Config.mk other.format other.failOn other.maxFindings other.rules other.boundaries
    ⟨other.options.strictSignals, other.options.capPerFile, other.options.capTotal⟩ other.source
      = config
  rw [hformat, hfailOn, hmaxFindings, hrules, hboundaries, hstrict, hperFile, htotal, hsource]

/-- The exit code does not fail on a severity that a configuration may hold. -/
theorem exists_exitCode (top : Option Severity) (failOn : Option FailOn) :
    ∃ code, ExitCode.of (top.map Severity.name) (failOn.map FailOn.name) = .ok code := by
  cases top with
  | none => exact ⟨0, ExitCode.of_none _⟩
  | some s =>
      cases failOn with
      | none => exact ⟨_, rfl⟩
      | some choice =>
          cases choice with
          | never => exact ⟨0, rfl⟩
          | major => exact ⟨_, ExitCode.of_word s .major rfl⟩
          | critical => exact ⟨_, ExitCode.of_word s .critical rfl⟩

/-- A number that a well typed table says is above zero. -/
theorem Field.Fits.pos {limit : Option Int} (h : field.Fits table)
    (hadmits : field.Admits = IsCount) (hlimit : limit.map Toml.integer = field.value? table) :
    ∀ n ∈ limit, 0 < n := by
  intro n hn
  have hvalue : field.value? table = some (.integer n) := by
    rw [← hlimit, hn]
    rfl
  have hcount := h _ hvalue
  rw [hadmits] at hcount
  obtain ⟨m, hm, hpos⟩ := hcount
  cases hm
  exact hpos

theorem safe_of_ofTable {source : Path} {config : Config} (h : ofTable table source = .ok config) :
    config.Safe := by
  have haccounted := accounted_ofTable table source
  rw [h] at haccounted
  obtain ⟨hwell, hcarries⟩ := haccounted
  exact {
    maxFindings := (hwell .maxFindings).pos rfl hcarries.maxFindings
    capPerFile := (hwell .capPerFile).pos rfl hcarries.options.capPerFile
    capTotal := (hwell .capTotal).pos rfl hcarries.options.capTotal
    exitCode := fun top => exists_exitCode top config.failOn }

/-- The defaults have no limits. -/
theorem safe_default : Safe {} where
  maxFindings := by simp
  capPerFile := by simp
  capTotal := by simp
  exitCode top := exists_exitCode top none

section Load

variable {files : FileTree} {workingFolder path repository : Path} {named : Option Path}
  {config : Config}

theorem safe_of_readFile (h : readFile files workingFolder path = .ok config) : config.Safe := by
  obtain ⟨table, -, htable⟩ := Outcome.bind_eq_ok.mp h
  exact safe_of_ofTable (Outcome.mapError_eq_ok.mp htable)

theorem safe_of_ofProject (h : ofProject files workingFolder path = .ok config) :
    config.Safe := by
  obtain ⟨table, -, htable⟩ := Outcome.bind_eq_ok.mp h
  split at htable
  · rw [← Outcome.pure_eq_ok.mp htable]
    exact safe_default
  · exact safe_of_ofTable (Outcome.mapError_eq_ok.mp htable)

/-- **Whatever is loaded is safe to run**, wherever it comes from. -/
theorem safe_of_load (h : load files workingFolder repository named = .ok config) :
    config.Safe := by
  unfold load at h
  dsimp only at h
  split at h
  · unfold ofRepository at h
    split at h
    · exact safe_of_readFile h
    · dsimp only at h
      split at h
      · exact safe_of_ofProject h
      · rw [← Except.ok.inj h]
        exact safe_default
  · split at h
    · exact safe_of_readFile h
    · exact absurd h (by simp)

end Load

/-- **A configuration is accepted exactly when its table is well typed, and then safe to run.**  It
is the one that the table says; what is not well typed is refused with the name of a field that does
not fit; and every configuration that is loaded, from wherever, is safe. -/
theorem accepted_iff_wellTyped (htexts : HasTexts table) (source : Path) :
    (WellTyped table → ∃ config, ofTable table source = .ok config ∧
      ∀ other, Carries table source other ↔ other = config) ∧
    (¬WellTyped table → ∃ (field : Field) (flaw : FieldFlaw),
      ofTable table source = .error (.field field.name flaw) ∧ ¬field.Fits table) ∧
    ∀ files workingFolder repository named config,
      load files workingFolder repository named = .ok config → config.Safe := by
  have haccounted := accounted_ofTable table source
  -- Both ways the other outcome is excluded by what it accounts for.
  refine ⟨fun hwell => ?_, fun hill => ?_, fun _ _ _ _ _ => safe_of_load⟩
  · cases hcheck : ofTable table source with
    | ok config =>
        rw [hcheck] at haccounted
        refine ⟨config, rfl, fun other => ⟨haccounted.2.unique, ?_⟩⟩
        rintro rfl
        exact haccounted.2
    | error e =>
        rw [hcheck] at haccounted
        cases e with
        | field name flaw =>
            obtain ⟨field, -, hnot⟩ := haccounted
            exact absurd (hwell field) hnot
        | numeral => exact absurd htexts haccounted
  · cases hcheck : ofTable table source with
    | ok config =>
        rw [hcheck] at haccounted
        exact absurd haccounted.1 hill
    | error e =>
        rw [hcheck] at haccounted
        cases e with
        | field name flaw =>
            obtain ⟨field, rfl, hnot⟩ := haccounted
            exact ⟨field, flaw, rfl, hnot⟩
        | numeral => exact absurd htexts haccounted

/-- A table with a word in capitals, a format that is no word, and a cap. -/
def cappedTable : Toml.Fields :=
  [("format", .boolean true), ("fail_on", .string "MAJOR"),
    ("engine", .table [("cap_per_rule_total", .integer 2)])]

/-- A table with a switch in the place of a number. -/
def switchedTable : Toml.Fields := [("max_findings", .boolean true)]

/-- The first table is accepted, with the severity to fail on in small letters; the second one is
not. -/
theorem accepted_iff_wellTyped_capped :
    HasTexts cappedTable ∧ WellTyped cappedTable ∧
      (∃ config, ofTable cappedTable {} = .ok config ∧ config.format = .human ∧
        config.failOn = some .major ∧ ∀ other, Carries cappedTable {} other ↔ other = config) ∧
      HasTexts switchedTable ∧ ¬WellTyped switchedTable ∧
      ∃ (field : Field) (flaw : FieldFlaw),
        ofTable switchedTable {} = .error (.field field.name flaw) ∧ ¬field.Fits switchedTable := by
  have htexts : HasTexts cappedTable := by
    intro key hkey v hv
    rcases List.mem_pair.mp hkey with rfl | rfl
    · obtain rfl : Toml.boolean true = v := Option.some.inj hv
      exact ⟨_, .boolean true⟩
    · obtain rfl : Toml.string "MAJOR" = v := Option.some.inj hv
      exact ⟨_, .string _⟩
  have hwell : WellTyped cappedTable := by
    intro field v hv
    cases field with
    | engine => exact ⟨_, (Option.some.inj hv).symm⟩
    | failOn => exact ⟨.major, "MAJOR", Option.some.inj hv ▸ .string _, by decide⟩
    | capTotal => exact ⟨2, (Option.some.inj hv).symm, by decide⟩
    | maxFindings | rules | boundaries | strictSignals | capPerFile =>
        exact absurd (show none = some v from hv) (by simp)
  have hswitched : HasTexts switchedTable := by
    intro key hkey v hv
    rcases List.mem_pair.mp hkey with rfl | rfl
    · exact absurd (show none = some v from hv) (by simp)
    · exact absurd (show none = some v from hv) (by simp)
  have hill : ¬WellTyped switchedTable := by
    intro h
    obtain ⟨n, hn, -⟩ := h .maxFindings (.boolean true) rfl
    cases hn
  obtain ⟨config, hconfig, hcarries⟩ := (accepted_iff_wellTyped htexts {}).1 hwell
  have hformat : config.format = .human :=
    Outcome.eq_of_toOption (f := Config.format) (by rfl) config hconfig
  have hfailOn : config.failOn = some .major :=
    Outcome.eq_of_toOption (f := Config.failOn) (by rfl) config hconfig
  exact ⟨htexts, hwell, ⟨config, hconfig, hformat, hfailOn, hcarries⟩, hswitched, hill,
    (accepted_iff_wellTyped hswitched {}).2.1 hill⟩

end Config

end PatchReview
