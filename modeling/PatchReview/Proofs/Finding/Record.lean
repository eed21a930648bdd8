/-
The bytes behind the fingerprint of a record tell the record.

A finding that brings no fingerprint gets the digest of everything it says, written as one
dense JSON object with its keys in order.  The keys are the same for all findings, every
text is a dense string, and where a dense string ends is no matter of choice; behind the
strings of the evidence stands a comma or the closing bracket.  So two records that are
written alike agree field by field, and in each of their lines of evidence, whatever code
points they hold.  The bytes of a text tell the text in turn, lone surrogates included.
-/
import Mathlib.Data.List.Permutation
import PatchReview.Proofs.Json.Edit
import PatchReview.Proofs.Json.Literal
import PatchReview.Proofs.Text
import PatchReview.Proofs.Text.Utf8
import PatchReview.Finding.Fingerprint

namespace PatchReview

open Json (stringLiteral stringLiteral_append_inj)

namespace Fingerprint

/-- The bytes whose digest is the fingerprint of a finding that brought none. -/
def recordBytes (f : Finding) : List UInt8 := Utf8.encode (record f)

/-! ### Lists of strings -/

/-- Strings behind one another, each with a comma in front. -/
def furtherStrings (texts : List Text) : Text := texts.flatMap fun t => "," ++ stringLiteral false t

theorem join_stringLiteral (t : Text) (ts : List Text) :
    Text.join "," ((t :: ts).map (stringLiteral false))
      = stringLiteral false t ++ furtherStrings ts := by
  induction ts generalizing t with
  | nil => simp [Text.join, furtherStrings]
  | cons u ts ih =>
      rw [List.map_cons, Text.join_cons (by simp), ih u, furtherStrings, furtherStrings,
        List.flatMap_cons]
      simp only [List.append_assoc]

/-- A bracket ends a list of strings, and a comma does not. -/
theorem furtherStrings_append_inj {ts us : List Text} {a b : Text}
    (h : furtherStrings ts ++ ("]" ++ a) = furtherStrings us ++ ("]" ++ b)) : ts = us ∧ a = b := by
  induction ts generalizing us with
  | nil =>
      cases us with
      | nil => exact ⟨rfl, List.append_cancel_left h⟩
      | cons u us => exact absurd (List.cons.inj h).1 (by decide)
  | cons t ts ih =>
      cases us with
      | nil => exact absurd (List.cons.inj h).1 (by decide)
      | cons u us =>
          simp only [furtherStrings, List.flatMap_cons, List.append_assoc] at h
          obtain ⟨rfl, hrest⟩ := stringLiteral_append_inj (List.append_cancel_left h)
          obtain ⟨rfl, hab⟩ := ih hrest
          exact ⟨rfl, hab⟩

/-- The strings of an array in dense JSON. -/
def stringArray (texts : List Text) : Text :=
  "[" ++ Text.join "," (texts.map (stringLiteral false)) ++ "]"

theorem stringArray_append_inj {ts us : List Text} {a b : Text}
    (h : stringArray ts ++ a = stringArray us ++ b) : ts = us ∧ a = b := by
  simp only [stringArray, List.append_assoc] at h
  have hitems := List.append_cancel_left h
  cases ts with
  | nil =>
      cases us with
      | nil => exact ⟨rfl, List.append_cancel_left hitems⟩
      | cons u us =>
          rw [join_stringLiteral] at hitems
          exact absurd (List.cons.inj hitems).1 (by decide)
  | cons t ts =>
      rw [join_stringLiteral, List.append_assoc] at hitems
      cases us with
      | nil => exact absurd (List.cons.inj hitems).1 (by decide)
      | cons u us =>
          rw [join_stringLiteral, List.append_assoc] at hitems
          obtain ⟨rfl, hrest⟩ := stringLiteral_append_inj hitems
          obtain ⟨rfl, hab⟩ := furtherStrings_append_inj hrest
          exact ⟨rfl, hab⟩

/-! ### The record -/

/-- A field tells its value, which ends where it ends. -/
theorem denseField_append_inj {key s t a b : Text}
    (h : denseField key (stringLiteral false s) ++ a = denseField key (stringLiteral false t) ++ b) :
    s = t ∧ a = b := by
  simp only [denseField, List.append_assoc] at h
  exact stringLiteral_append_inj (List.append_cancel_left (List.append_cancel_left h))

theorem denseField_array_append_inj {key a b : Text} {ts us : List Text}
    (h : denseField key (stringArray ts) ++ a = denseField key (stringArray us) ++ b) :
    ts = us ∧ a = b := by
  simp only [denseField, List.append_assoc] at h
  exact stringArray_append_inj (List.append_cancel_left (List.append_cancel_left h))

/-- What two findings say is the same, whatever their fingerprints are. -/
structure SameRecord (f g : Finding) : Prop where
  rule : f.rule = g.rule
  area : f.area = g.area
  severity : f.severity = g.severity
  file : f.file = g.file
  locator : f.locator = g.locator
  evidence : f.evidence = g.evidence
  why : f.why = g.why
  suggestion : f.suggestion = g.suggestion

theorem record_inj {f g : Finding} (h : record f = record g) : SameRecord f g := by
  have hfields : ∀ f : Finding, record f = "\x7b" ++ (denseField "area" (stringLiteral false f.area)
      ++ ("," ++ (denseField "file" (stringLiteral false f.file)
      ++ ("," ++ (denseField "finding" (stringArray f.evidence)
      ++ ("," ++ (denseField "locator" (stringLiteral false f.locator)
      ++ ("," ++ (denseField "rule" (stringLiteral false f.rule)
      ++ ("," ++ (denseField "severity" (stringLiteral false f.severity)
      ++ ("," ++ (denseField "suggestion" (stringLiteral false f.suggestion)
      ++ ("," ++ (denseField "why" (stringLiteral false f.why) ++ "\x7d"))))))))))))))) := by
    intro f
    simp only [record, Text.join, stringArray, List.append_assoc]
  rw [hfields, hfields] at h
  obtain ⟨harea, h⟩ := denseField_append_inj (List.append_cancel_left h)
  obtain ⟨hfile, h⟩ := denseField_append_inj (List.append_cancel_left h)
  obtain ⟨hevidence, h⟩ := denseField_array_append_inj (List.append_cancel_left h)
  obtain ⟨hlocator, h⟩ := denseField_append_inj (List.append_cancel_left h)
  obtain ⟨hrule, h⟩ := denseField_append_inj (List.append_cancel_left h)
  obtain ⟨hseverity, h⟩ := denseField_append_inj (List.append_cancel_left h)
  obtain ⟨hsuggestion, h⟩ := denseField_append_inj (List.append_cancel_left h)
  obtain ⟨hwhy, -⟩ := denseField_append_inj (List.append_cancel_left h)
  exact ⟨hrule, harea, hseverity, hfile, hlocator, hevidence, hwhy, hsuggestion⟩

/-! ### The record as JSON -/

theorem printItems_strings (layout : Json.Layout) (level : Nat) (texts : List Text) :
    Json.printItems layout level (texts.map Json.string)
      = .ok (texts.map (stringLiteral layout.asciiOnly)) := by
  induction texts with
  | nil => rw [List.map_nil, Json.printItems, List.map_nil]
  | cons t texts ih =>
      rw [List.map_cons, Json.printItems, Json.printAt, ih]
      rfl

theorem enclose_dense (level : Nat) (opening closing : Text) (items : List Text) :
    Json.enclose .dense level opening closing items
      = opening ++ Text.join "," items ++ closing := by
  cases items with
  | nil => simp [Json.enclose, Text.join]
  | cons t items => rfl

theorem printAt_strings (level : Nat) (texts : List Text) :
    (Json.strings texts).printAt .dense level = .ok (stringArray texts) := by
  rw [Json.strings, Json.printAt, printItems_strings]
  exact congrArg Except.ok (enclose_dense level "[" "]" _)

/-- A finding as it is written, without its fingerprint. -/
def recordJson (f : Finding) : Json :=
  .object (f.toJson.fieldsOf.filter fun field => field.1 ≠ "fingerprint")

theorem sorted_record (rule area severity file locator evidence why suggestion : Text) :
    List.mergeSort [(("rule" : Text), rule), ("area", area), ("severity", severity), ("file", file),
        ("locator", locator), ("finding", evidence), ("why", why), ("suggestion", suggestion)]
        (fun a b => a.1.notAfter b.1)
      = [(("area" : Text), area), ("file", file), ("finding", evidence), ("locator", locator),
        ("rule", rule), ("severity", severity), ("suggestion", suggestion), ("why", why)] := by
  cbv

/-- **The record of a finding is its dense JSON**, with the keys in order and without the
fingerprint. -/
theorem print_recordJson (f : Finding) : Json.print .dense (recordJson f) = .ok (record f) := by
  have hfields : recordJson f = .object
      [("rule", .string f.rule), ("area", .string f.area), ("severity", .string f.severity),
        ("file", .string f.file), ("locator", .string f.locator),
        ("finding", Json.strings f.evidence), ("why", .string f.why),
        ("suggestion", .string f.suggestion)] := rfl
  rw [Json.print, hfields, Json.printAt]
  simp only [Json.printFields, Json.printAt, printAt_strings, bind, Except.bind, pure, Except.pure,
    sorted_record, enclose_dense]
  rfl

/-! ### The bytes -/

theorem record_congr {f g : Finding} (h : SameRecord f g) : record f = record g := by
  simp only [record, h.rule, h.area, h.severity, h.file, h.locator, h.evidence, h.why, h.suggestion]

/-- **The bytes behind the fingerprint of a record identify the record.**  They are those of the
dense JSON of the finding, their digest is the fingerprint of its record, and two findings have the
same bytes exactly if they agree in all that they say, in every line of evidence too. -/
theorem recordBytes_identify (f g : Finding) :
    (∃ t, Json.print .dense (recordJson f) = .ok t ∧ recordBytes f = Utf8.encode t) ∧
      f.recordFingerprint = Sha1.hex (recordBytes f) ∧
      (recordBytes f = recordBytes g ↔ SameRecord f g) := by
  refine ⟨⟨record f, print_recordJson f, rfl⟩, rfl, fun hbytes => ?_, fun hsame => ?_⟩
  · exact record_inj (Utf8.encode_injective hbytes)
  · rw [recordBytes, recordBytes, record_congr hsame]

end Fingerprint

end PatchReview
