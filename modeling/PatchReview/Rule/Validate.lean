/-
Validating rules strictly.

Loading takes what it can get; validation says what is wrong with a rules document.
Problems are reported in the order of the document, and an unusable list of rules ends
the report.
-/
import PatchReview.Number.Decimal
import PatchReview.Rule.Basic

namespace PatchReview

/-- What is wrong with a rule. -/
inductive RuleProblem
  | notAnObject
  | idMissing
  | idDuplicate (id : Text)
  | areaMissing
  | severityUnknown
  | statusUnknown
  | triggerNotAnObject
  | triggerTypeUnknown
  | evidenceUnknown
  | requireSignalNotBoolean
  /-- The list of this name is not a list of strings. -/
  | listMalformed (name : Text)
deriving DecidableEq, Repr

/-- What is wrong with a rules document. -/
inductive DocumentProblem
  | notAnObject
  | versionMissing
  | domainMissing
  | rulesMissing
  /-- A problem with the rule of this index. -/
  | rule (index : Nat) (problem : RuleProblem)
deriving DecidableEq, Repr

namespace RuleProblem

/-- A list of words for a message. -/
def oneOf (words : List Text) : Text := " must be one of: " ++ Text.commaList words

/-- What is said about a problem, behind the pointer to the rule. -/
def message : RuleProblem → Text
  | notAnObject => " must be an object"
  | idMissing => "/id must be a non-empty string"
  | idDuplicate id => "/id duplicates '" ++ id ++ "'"
  | areaMissing => "/area must be a string"
  | severityUnknown => "/severity" ++ oneOf (Severity.all.map Severity.name)
  | statusUnknown => "/status" ++ oneOf ruleStatuses
  | triggerNotAnObject => "/trigger must be an object"
  | triggerTypeUnknown => "/trigger/type" ++ oneOf ["heuristic", "hybrid", "llm", "pattern"]
  | evidenceUnknown => "/trigger/evidence" ++ oneOf (Evidence.all.map Evidence.name)
  | requireSignalNotBoolean => "/trigger/requireSignalMatch must be a boolean"
  | listMalformed name => "/trigger/" ++ name ++ " must be an array of strings"

end RuleProblem

namespace DocumentProblem

/-- What is said about a problem. -/
def message : DocumentProblem → Text
  | notAnObject => "(root) must be an object"
  | versionMissing => "/version must be an integer"
  | domainMissing => "/domain must be a string"
  | rulesMissing => "/rules must be an array"
  | rule index problem => "/rules/" ++ Decimal.ofNat index ++ problem.message

end DocumentProblem

namespace RuleSet

/-- Whether a value is one of some words. -/
def isWord (words : List Text) (v : Json) : Bool :=
  match v with
  | .string t => words.elem t
  | _ => false

/-- Whether a value is a list of strings. -/
def isStringList : Json → Bool
  | .array items => items.all fun v => v.string?.isSome
  | _ => false

/-- A problem, unless all is well. -/
def check (well : Bool) (problem : RuleProblem) : List RuleProblem :=
  if well then [] else [problem]

/-- What a present field has to satisfy. -/
def ifPresent (v : Json) (key : Text) (p : Json → Bool) : Bool := (v.get? key).all p

/-- Whether a value is a truth value. -/
def isBoolean : Json → Bool
  | .bool _ => true
  | _ => false

/-- The fields of a trigger that are lists. -/
def triggerLists : List Text := ["signals", "exempt", "file_glob"]

/-- What is wrong with a trigger. -/
def triggerProblems (v : Json) : List RuleProblem :=
  match v with
  | .object _ =>
    check (isWord (TriggerKind.all.map TriggerKind.name) (v.field "type")) .triggerTypeUnknown
      ++ check (ifPresent v "evidence" (isWord (Evidence.all.map Evidence.name))) .evidenceUnknown
      ++ check (ifPresent v "requireSignalMatch" isBoolean) .requireSignalNotBoolean
      ++ triggerLists.flatMap fun name =>
          check (ifPresent v name isStringList) (.listMalformed name)
  | _ => [.triggerNotAnObject]

/-- What is wrong with the id of a rule, given the ids before it. -/
def idProblems (seen : List Text) (v : Json) : List RuleProblem :=
  match v with
  | .string [] => [.idMissing]
  | .string id => if seen.elem id then [.idDuplicate id] else []
  | _ => [.idMissing]

/-- What is wrong with a rule, given the ids of the rules before it. -/
def ruleProblems (seen : List Text) (v : Json) : List RuleProblem :=
  match v with
  | .object _ =>
    idProblems seen (v.field "id")
      ++ check (v.field "area").string?.isSome .areaMissing
      ++ check (isWord (Severity.all.map Severity.name) (v.field "severity")) .severityUnknown
      ++ check (ifPresent v "status" (isWord ruleStatuses)) .statusUnknown
      ++ ((v.get? "trigger").map triggerProblems).getD []
  | _ => [.notAnObject]

/-- What is wrong with some rules, the first of which has this index. -/
def listProblems (index : Nat) (seen : List Text) : List Json → List DocumentProblem
  | [] => []
  | v :: rest =>
    (ruleProblems seen v).map (.rule index)
      ++ listProblems (index + 1) ((v.field "id").string?.toList ++ seen) rest

/-- What is wrong with a rules document; nothing if it is valid. -/
def problems (v : Json) : List DocumentProblem :=
  match v with
  | .object _ =>
    (if (v.field "version").int?.isSome then [] else [.versionMissing])
      ++ (if (v.field "domain").string?.isSome then [] else [.domainMissing])
      ++ match v.field "rules" with
        | .array rules => listProblems 0 [] rules
        | _ => [.rulesMissing]
  | _ => [.notAnObject]

end RuleSet

end PatchReview
