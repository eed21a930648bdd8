/-
What a bracket stands for.

The body of a class is read from left to right.  A hyphen between two code points makes
them the ends of a range, and everything else stands for itself, a hyphen at either end
included: that is `Class.Reads`, in which a body has one reading and only one.  If every
range runs upwards, the bracket stands for the code points in its ranges; if not, the
bracket is no class, and the pattern is its own text.

A negated class must not hold a slash, and it gets the slash as a member in front of its
body.  As a rule that adds the slash and changes nothing else.  But a hyphen at the start
of the body is then no longer at its start: unless the body ends there, it makes a range
from the slash to what follows, and the negated class is not the complement of the class.
-/
import PatchReview.Proofs.Glob.Match
import PatchReview.Proofs.Text

namespace PatchReview

namespace Glob

open CodePoint (lineFeed)

namespace Class

/-! ### Reading a body -/

/-- What stands between the ends of a range. -/
def hyphen : CodePoint := '-'

/-- The ranges of a body, a single code point being a range to itself. -/
inductive Reads : Text → List (CodePoint × CodePoint) → Prop
  | nil : Reads [] []
  | range (x y : CodePoint) {rest : Text} {parts : List (CodePoint × CodePoint)}
      (h : Reads rest parts) : Reads (x :: hyphen :: y :: rest) ((x, y) :: parts)
  | single (x : CodePoint) {rest : Text} {parts : List (CodePoint × CodePoint)}
      (alone : ∀ y more, rest ≠ hyphen :: y :: more) (h : Reads rest parts) :
      Reads (x :: rest) ((x, x) :: parts)

variable {body rest : Text} {parts : List (CodePoint × CodePoint)}

/-- Where something else than a hyphen follows, no range is begun. -/
theorem ne_of_head?_ne (h : rest.head? ≠ some hyphen) : ∀ y more, rest ≠ hyphen :: y :: more := by
  rintro y more rfl
  exact h rfl

/-- A body can be read. -/
theorem exists_reads (body : Text) : ∃ parts, Reads body parts := by
  match body with
  | [] => exact ⟨[], .nil⟩
  | x :: rest =>
      by_cases hrange : ∃ y more, rest = hyphen :: y :: more
      · obtain ⟨y, more, rfl⟩ := hrange
        obtain ⟨parts, h⟩ := exists_reads more
        exact ⟨(x, y) :: parts, .range x y h⟩
      · obtain ⟨parts, h⟩ := exists_reads rest
        exact ⟨(x, x) :: parts, .single x (fun y more hrest => hrange ⟨y, more, hrest⟩) h⟩
termination_by body.length

/-- A body is read in one way. -/
theorem Reads.unique {other : List (CodePoint × CodePoint)} (h : Reads body parts)
    (hother : Reads body other) : other = parts := by
  induction h generalizing other with
  | nil =>
      cases hother
      rfl
  | range x y h ih =>
      cases hother with
      | range _ _ hrest => rw [ih hrest]
      | single _ alone => exact absurd rfl (alone y _)
  | single x alone h ih =>
      cases hother with
      | range _ y hrest => exact absurd rfl (alone y _)
      | single _ _ hrest => rw [ih hrest]

/-- Every range runs upwards. -/
def InOrder (parts : List (CodePoint × CodePoint)) : Prop := ∀ r ∈ parts, r.1 ≤ r.2

instance (parts : List (CodePoint × CodePoint)) : Decidable (InOrder parts) :=
  inferInstanceAs (Decidable (∀ r ∈ parts, r.1 ≤ r.2))

theorem inOrder_cons {r : CodePoint × CodePoint} :
    InOrder (r :: parts) ↔ r.1 ≤ r.2 ∧ InOrder parts := List.forall_mem_cons

theorem members_range (x y : CodePoint) (rest : Text) :
    members (x :: hyphen :: y :: rest)
      = if y < x then none else (members rest).map ((x, y) :: ·) := by
  rw [members]
  exact if_pos rfl

theorem members_single (x : CodePoint) (alone : ∀ y more, rest ≠ hyphen :: y :: more) :
    members (x :: rest) = (members rest).map ((x, x) :: ·) := by
  match rest with
  | [] => rfl
  | [d] => rfl
  | d :: e :: more =>
      have hd : d ≠ hyphen := fun hd => alone e more (by rw [hd])
      rw [members]
      exact if_neg hd

/-- **The members of a body are its ranges**, unless one of them is reversed. -/
theorem Reads.members_eq (h : Reads body parts) :
    members body = if InOrder parts then some parts else none := by
  induction h with
  | nil => rfl
  | @range x y rest parts h ih =>
      rw [members_range, ih]
      by_cases hxy : y < x
      · have hout : ¬InOrder ((x, y) :: parts) := fun hall =>
          Nat.not_le_of_lt hxy (inOrder_cons.mp hall).1
        rw [if_pos hxy, if_neg hout]
      · have hiff : InOrder ((x, y) :: parts) ↔ InOrder parts :=
          inOrder_cons.trans (and_iff_right (Nat.le_of_not_lt hxy))
        simp only [if_neg hxy, hiff]
        split <;> rfl
  | @single x rest parts alone h ih =>
      have hiff : InOrder ((x, x) :: parts) ↔ InOrder parts :=
        inOrder_cons.trans (and_iff_right (Nat.le_refl _))
      rw [members_single x alone, ih]
      simp only [hiff]
      split <;> rfl

/-- A code point is in one of the ranges. -/
def Denotes (parts : List (CodePoint × CodePoint)) (c : CodePoint) : Prop :=
  ∃ r ∈ parts, r.1 ≤ c ∧ c ≤ r.2

instance (parts : List (CodePoint × CodePoint)) (c : CodePoint) : Decidable (Denotes parts c) :=
  inferInstanceAs (Decidable (∃ r ∈ parts, r.1 ≤ c ∧ c ≤ r.2))

theorem holds_plain_iff {c : CodePoint} :
    (Class.mk false parts).holds c = true ↔ Denotes parts c := by
  simp [holds, Denotes]

theorem holds_negated_iff {c : CodePoint} :
    (Class.mk true parts).holds c = true ↔ ¬Denotes parts c := by
  rw [← holds_plain_iff]
  simp [holds]

theorem denotes_single_cons {x c : CodePoint} :
    Denotes ((x, x) :: parts) c ↔ c = x ∨ Denotes parts c := by
  have hx : x ≤ c ∧ c ≤ x ↔ c = x := by
    rw [CodePoint.le_def, CodePoint.le_def, ← CodePoint.toNat_inj]
    omega
  simp [Denotes, hx]

/-! ### The body of a bracket -/

/-- What may stand between brackets: it is not empty, does not start as a negation, and has no closing
bracket but as its first member. -/
structure IsBody (body : Text) : Prop where
  nonempty : body ≠ []
  unmarked : ∀ c ∈ body.head?, isNegation c = false
  noClosing : Class.closing ∉ body.tail

theorem body?_closing (t : Text) :
    body? (closing :: t)
      = if closing ∈ t then some (closing :: Text.before closing t) else none := by
  simp [body?]

theorem body?_of_head? {t : Text} (h : t.head? ≠ some closing) :
    body? t = if closing ∈ t then some (Text.before closing t) else none := by
  simp [body?, h]

/-- The body of a class reaches up to its closing bracket. -/
theorem body?_append (hne : body ≠ []) (hclosing : closing ∉ body.tail) (rest : Text) :
    body? (body ++ closing :: rest) = some body := by
  cases body with
  | nil => exact absurd rfl hne
  | cons c body =>
      rw [List.tail_cons] at hclosing
      by_cases hc : c = closing
      · subst hc
        rw [List.cons_append, body?_closing, if_pos (by simp), Text.before_append hclosing]
      · have hnot : closing ∉ c :: body := by simp [Ne.symm hc, hclosing]
        rw [body?_of_head? (by simpa using hc), if_pos (by simp), Text.before_append hnot]

/-- A class is read off its body, with a slash in front if the class is negated. -/
theorem read?_of_body? {t : Text} {negated : Bool}
    (hnegated : (t.head?.map isNegation).getD false = negated)
    (hbody : body? (t.drop (if negated then 1 else 0)) = some body) :
    read? t = (members (if negated then slash :: body else body)).map fun ranges =>
      (⟨negated, ranges⟩, (if negated then 1 else 0) + body.length + 1) := by
  subst hnegated
  simp only [read?, hbody, Option.bind_eq_bind, Option.bind_some]
  exact Option.map_eq_bind.symm

theorem IsBody.read?_plain (h : IsBody body) (rest : Text) :
    read? (body ++ closing :: rest)
      = (members body).map fun ranges => (⟨false, ranges⟩, 0 + body.length + 1) := by
  refine read?_of_body? ?_ (body?_append h.nonempty h.noClosing rest)
  cases body with
  | nil => exact absurd rfl h.nonempty
  | cons c body => exact h.unmarked c rfl

theorem IsBody.read?_negated (h : IsBody body) {mark : CodePoint} (hmark : isNegation mark = true)
    (rest : Text) :
    read? (mark :: body ++ closing :: rest)
      = (members (slash :: body)).map fun ranges => (⟨true, ranges⟩, 1 + body.length + 1) :=
  read?_of_body? hmark (body?_append h.nonempty h.noClosing rest)

end Class

/-! ### Patterns of one bracket -/

/-- A text between brackets. -/
def bracket (inner : Text) : Text := '[' :: (inner ++ [Class.closing])

/-- A text in which no code point is special, a bracket that opens a class included. -/
def Unspecial (t : Text) : Prop := ∀ c ∈ t, c ≠ '*' ∧ c ≠ '?' ∧ c ≠ '['

instance (t : Text) : Decidable (Unspecial t) :=
  inferInstanceAs (Decidable (∀ c ∈ t, c ≠ '*' ∧ c ≠ '?' ∧ c ≠ '['))

theorem unspecial_cons {c : CodePoint} {t : Text} :
    Unspecial (c :: t) ↔ (c ≠ '*' ∧ c ≠ '?' ∧ c ≠ '[') ∧ Unspecial t := List.forall_mem_cons

/-- Text without special code points is read as it stands. -/
theorem tokensFrom_unspecial {t : Text} (h : Unspecial t) (read : List Token) (atSegment : Bool) :
    tokensFrom read atSegment t = read.reverse ++ t.map .literal := by
  induction t generalizing read atSegment with
  | nil => rw [tokensFrom, List.map_nil, List.append_nil]
  | cons c t ih =>
      obtain ⟨⟨hstar, hmark, hopen⟩, ht⟩ := unspecial_cons.mp h
      rw [tokensFrom, if_neg hstar, if_neg hmark, if_neg hopen, ih ht]
      simp

/-- Literal tokens match their own text. -/
theorem accepts_literals_iff {t path : Text} (hpath : lineFeed ∉ path) :
    accepts (t.map .literal) path = true ↔ path = t := by
  induction t generalizing path with
  | nil => rw [List.map_nil, accepts, atEnd_iff hpath]
  | cons c t ih =>
      rw [List.map_cons, accepts, afterOne_iff]
      constructor
      · rintro ⟨d, v, rfl, hd, hv⟩
        rw [(ih fun hmem => hpath (List.mem_cons_of_mem d hmem)).mp hv, eq_of_beq hd]
      · rintro rfl
        exact ⟨c, t, rfl, beq_self_eq_true c,
          (ih fun hmem => hpath (List.mem_cons_of_mem c hmem)).mpr rfl⟩

section

variable {inner : Text}

/-- A bracket that is a class is its only token. -/
theorem isMatch_bracket_of_class {cls : Class}
    (h : Class.read? (inner ++ [Class.closing]) = some (cls, inner.length + 1)) (c : CodePoint) :
    isMatch (bracket inner) [c] = cls.holds c := by
  have hrest : (inner ++ [Class.closing]).drop (inner.length + 1) = [] := by simp
  have htokens : tokens (bracket inner) = [.among cls] := by
    rw [tokens, bracket, tokensFrom, if_neg (by decide), if_neg (by decide), if_pos rfl]
    simp only [h, hrest]
    rw [tokensFrom]
    rfl
  rw [isMatch, htokens]
  simp [accepts, afterOne, atEnd]

/-- A bracket that is no class is literal, and so is its text if nothing in it is special. -/
theorem isMatch_bracket_of_literal (h : Class.read? (inner ++ [Class.closing]) = none)
    (hinner : Unspecial inner) {path : Text} (hpath : lineFeed ∉ path) :
    isMatch (bracket inner) path = true ↔ path = bracket inner := by
  have hunspecial : Unspecial (inner ++ [Class.closing]) := by
    intro c hc
    rcases List.mem_append.mp hc with hc | hc
    · exact hinner c hc
    · rw [List.mem_singleton.mp hc]
      decide
  have htokens : tokens (bracket inner) = (bracket inner).map .literal := by
    rw [tokens, bracket, tokensFrom, if_neg (by decide), if_neg (by decide), if_pos rfl]
    simp only [h]
    rw [tokensFrom_unspecial hunspecial]
    rfl
  rw [isMatch, htokens]
  exact accepts_literals_iff hpath

end

/-- What a pattern of one bracket stands for, whose ranges are these. -/
structure StandsFor (pattern body : Text) (parts : List (CodePoint × CodePoint))
    (member : CodePoint → Prop) : Prop where
  /-- If every range runs upwards it stands for its members. -/
  members : Class.InOrder parts → ∀ c, isMatch pattern [c] = true ↔ member c
  /-- If one is reversed it stands for its own text, unless there is something special in the body. -/
  literal : ¬Class.InOrder parts → Unspecial body →
    ∀ path, lineFeed ∉ path → (isMatch pattern path = true ↔ path = pattern)

open PatchReview.Glob.Class

variable {body : Text} {parts : List (CodePoint × CodePoint)}

/-- A class stands for the ranges of its body. -/
theorem Class.IsBody.standsFor_plain (h : IsBody body) (hparts : Reads body parts) :
    StandsFor (bracket body) body parts (Denotes parts) where
  members := by
    intro horder c
    have hread := h.read?_plain []
    rw [hparts.members_eq, if_pos horder, Nat.zero_add] at hread
    rw [isMatch_bracket_of_class hread, holds_plain_iff]
  literal := by
    intro horder hunspecial path hpath
    have hread := h.read?_plain []
    rw [hparts.members_eq, if_neg horder] at hread
    exact isMatch_bracket_of_literal hread hunspecial hpath

/-- A negated class stands for all but the ranges of its body with a slash in front. -/
theorem Class.IsBody.standsFor_negated (h : IsBody body) {mark : CodePoint}
    (hmark : isNegation mark = true) (hparts : Reads (slash :: body) parts) :
    StandsFor (bracket (mark :: body)) body parts fun c => ¬Denotes parts c where
  members := by
    intro horder c
    have hread := h.read?_negated hmark []
    rw [hparts.members_eq, if_pos horder, Nat.add_comm 1] at hread
    rw [isMatch_bracket_of_class hread, holds_negated_iff]
  literal := by
    intro horder hunspecial path hpath
    have hread := h.read?_negated hmark []
    have hneither : mark ≠ '*' ∧ mark ≠ '?' ∧ mark ≠ '[' := by
      refine ⟨?_, ?_, ?_⟩ <;>
      · rintro rfl
        exact absurd hmark (by decide)
    rw [hparts.members_eq, if_neg horder] at hread
    exact isMatch_bracket_of_literal hread (unspecial_cons.mpr ⟨hneither, hunspecial⟩) hpath

/-- Where no range starts with the slash in front, that slash is a member more and nothing else. -/
theorem Class.IsBody.standsFor_complement (h : IsBody body) {mark : CodePoint}
    (hmark : isNegation mark = true) (hparts : Reads body parts)
    (hhyphen : ∀ y rest, body ≠ hyphen :: y :: rest) :
    StandsFor (bracket (mark :: body)) body parts fun c => c ≠ slash ∧ ¬Denotes parts c := by
  have hstands := h.standsFor_negated hmark (.single slash hhyphen hparts)
  have horder : InOrder ((slash, slash) :: parts) ↔ InOrder parts :=
    inOrder_cons.trans (and_iff_right (Nat.le_refl _))
  refine ⟨fun hall c => ?_, fun hall => hstands.literal fun hslash => hall (horder.mp hslash)⟩
  rw [hstands.members (horder.mpr hall) c, denotes_single_cons, not_or]

/-- **What a bracket stands for.**  A body has one reading.  A class stands for its ranges and a
negated class for all else but the slash, unless the body starts with a hyphen in front of something:
that makes a range from the slash in the negated class. -/
theorem isMatch_bracket (h : IsBody body) :
    ∃ parts, (∀ other, Reads body other ↔ other = parts) ∧
      StandsFor (bracket body) body parts (Denotes parts) ∧
      ∀ mark, isNegation mark = true →
        ((∀ y rest, body ≠ hyphen :: y :: rest) →
          StandsFor (bracket (mark :: body)) body parts fun c => c ≠ slash ∧ ¬Denotes parts c) ∧
        ∀ y rest, body = hyphen :: y :: rest →
          ∃ behind, Reads rest behind ∧
            StandsFor (bracket (mark :: body)) body ((slash, y) :: behind)
              fun c => ¬Denotes ((slash, y) :: behind) c := by
  obtain ⟨parts, hparts⟩ := exists_reads body
  refine ⟨parts, fun other => ⟨hparts.unique, fun heq => heq ▸ hparts⟩, h.standsFor_plain hparts,
    fun mark hmark => ⟨h.standsFor_complement hmark hparts, ?_⟩⟩
  rintro y rest rfl
  obtain ⟨behind, hbehind⟩ := exists_reads rest
  exact ⟨behind, hbehind, h.standsFor_negated hmark (.range slash y hbehind)⟩

/-- A closing bracket in front, a caret, a range and a hyphen at the end. -/
theorem isMatch_bracket_mixed :
    let body : Text := "]^x-z-"
    let parts : List (CodePoint × CodePoint) := [(']', ']'), ('^', '^'), ('x', 'z'), ('-', '-')]
    IsBody body ∧ Reads body parts ∧ InOrder parts ∧
      (∀ c, isMatch "[]^x-z-]" [c] = true ↔ Denotes parts c) ∧
      ∀ c, isMatch "[!]^x-z-]" [c] = true ↔ c ≠ slash ∧ ¬Denotes parts c := by
  intro body parts
  have hbody : IsBody body := ⟨by decide, by decide, by decide⟩
  have hreads : Reads body parts := by
    have hend : Reads "-" [('-', '-')] := .single _ (by simp) .nil
    exact .single _ (ne_of_head?_ne (by decide)) (.single _ (ne_of_head?_ne (by decide))
      (.range _ _ hend))
  have horder : InOrder parts := by decide
  obtain ⟨read, hunique, hplain, hnegated⟩ := isMatch_bracket hbody
  obtain rfl : parts = read := (hunique parts).mp hreads
  refine ⟨hbody, hreads, horder, hplain.members horder, ?_⟩
  exact ((hnegated '!' rfl).1 (ne_of_head?_ne (by decide))).members horder

/-- **A class and the negated class may overlap**: the hyphen in front is a member of the class, but
the range that it makes from the slash leaves it out. -/
theorem isMatch_bracket_hyphenLed :
    IsBody "-a" ∧ isMatch "[-a]" "-" = true ∧ isMatch "[!-a]" "-" = true := by
  have hbody : IsBody "-a" := ⟨by decide, by decide, by decide⟩
  have hplain : Reads "-a" [('-', '-'), ('a', 'a')] :=
    .single _ (ne_of_head?_ne (by decide)) (.single _ (by simp) .nil)
  have hnegated : Reads (slash :: Text.ofString "-a") [(slash, 'a')] := .range slash 'a' .nil
  have hmark : isNegation '!' = true := rfl
  have hmember : Denotes [('-', '-'), ('a', 'a')] '-' := by decide
  have hleftOut : ¬Denotes [(slash, 'a')] '-' := by decide
  exact ⟨hbody, ((hbody.standsFor_plain hplain).members (by decide) '-').mpr hmember,
    ((hbody.standsFor_negated hmark hnegated).members (by decide) '-').mpr hleftOut⟩

end Glob

end PatchReview
