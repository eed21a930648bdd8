/-
How the leaves of patterns are refused, and how far they are read.

A pattern that breaks the rules of patterns is malformed, and that is forgiven: such a
pattern matches nothing.  What is not forgiven is a bound that cannot be counted, so it
matters that nothing else is ever refused but for being malformed.  A reader is lawful if
that is so and if what it returns is as expected; for the leaves the expectation is that
they read on, leaving a later part of the pattern.
-/
import PatchReview.Proofs.Outcome
import PatchReview.Regex.Scan

namespace PatchReview

namespace Regex

/-- A computation that is refused as malformed at worst and whose results satisfy `P`. -/
def Lawful {α : Type} (P : α → Prop) : Except RegexError α → Prop
  | .ok a => P a
  | .error e => e = .malformed

/-- A lawful reader that leaves a later part of what it reads. -/
abbrev Reads {α : Type} (ts : List Token) (x : Except RegexError (Scanned α)) : Prop :=
  Lawful (fun scanned => scanned.2 <:+ ts) x

namespace Lawful

variable {α β : Type} {P : α → Prop} {Q : β → Prop} {x : Except RegexError α}

theorem malformed : Lawful P Regex.malformed := rfl

theorem bind {f : α → Except RegexError β} (hx : Lawful P x) (hf : ∀ a, P a → Lawful Q (f a)) :
    Lawful Q (x >>= f) := by
  cases x with
  | ok a => exact hf a hx
  | error e => exact hx

theorem map {f : α → β} (hx : Lawful P x) (hf : ∀ a, P a → Q (f a)) : Lawful Q (x.map f) := by
  cases x with
  | ok a => exact hf a hx
  | error e => exact hx

theorem mono {P' : α → Prop} (hx : Lawful P x) (h : ∀ a, P a → P' a) : Lawful P' x := by
  cases x with
  | ok a => exact h a hx
  | error e => exact hx

theorem ite {c : Prop} [Decidable c] {y : Except RegexError α} (hx : c → Lawful P x)
    (hy : ¬c → Lawful P y) : Lawful P (if c then x else y) := by
  split
  · exact hx ‹_›
  · exact hy ‹_›

/-- What is expected of the results may use that they are results. -/
theorem of_eq_ok {P' : α → Prop} (hx : Lawful P x) (h : ∀ a, x = .ok a → P a → P' a) :
    Lawful P' x := by
  cases x with
  | ok a => exact h a rfl hx
  | error e => exact hx

end Lawful

variable {ts : List Token}

theorem Reads.trans {α : Type} {ts' : List Token} {x : Except RegexError (Scanned α)}
    (hx : Reads ts x) (h : ts <:+ ts') : Reads ts' x := hx.mono fun _ hrest => hrest.trans h

theorem plainRun_suffix (p : CodePoint → Bool) (limit : Nat) (ts : List Token) :
    (plainRun p limit ts).2 <:+ ts := by
  induction limit generalizing ts with
  | zero => exact List.suffix_rfl
  | succ limit ih =>
      unfold plainRun
      split
      · split
        · exact (ih _).trans (List.suffix_cons _ _)
        · exact List.suffix_rfl
      · exact List.suffix_rfl

theorem name_reads (closing : CodePoint) (ts : List Token) : Reads ts (name closing ts) := by
  induction ts with
  | nil => exact Lawful.malformed
  | cons t rest ih =>
      cases t with
      | escaped c => exact Lawful.malformed
      | dangling => exact Lawful.malformed
      | plain c =>
          unfold name
          refine Lawful.ite (fun _ => List.suffix_cons _ _) fun _ => ?_
          exact (ih.trans (List.suffix_cons _ _)).map fun _ hrest => hrest

/-! ### Escapes -/

theorem codePoint_lawful (n : Nat) : Lawful (fun _ => True) (codePoint n) := by
  unfold codePoint
  split
  · trivial
  · exact Lawful.malformed

theorem hexEscape_reads (width : Nat) (ts : List Token) : Reads ts (hexEscape width ts) :=
  Lawful.ite (fun _ => Lawful.malformed) fun _ =>
    (codePoint_lawful _).bind fun _ _ => plainRun_suffix _ _ _

theorem octalEscape_reads (first : CodePoint) (ts : List Token) :
    Reads ts (octalEscape first ts) := by
  have hrun := plainRun_suffix isOctal 2 ts
  unfold octalEscape
  generalize plainRun isOctal 2 ts = run at hrun
  exact Lawful.ite (fun _ => Lawful.malformed) fun _ => (codePoint_lawful _).bind fun _ _ => hrun

section

variable [Host]

theorem namedEscape_reads (ts : List Token) : Reads ts (namedEscape ts) := by
  refine Lawful.ite (fun _ => Lawful.malformed) fun _ => ?_
  refine ((name_reads _ _).trans (List.drop_suffix 1 ts)).bind fun ⟨t, rest⟩ hrest => ?_
  dsimp only
  split
  · exact hrest
  · exact Lawful.malformed

theorem literalEscape_reads (c : CodePoint) (ts : List Token) : Reads ts (literalEscape c ts) := by
  unfold literalEscape
  split
  · exact List.suffix_rfl
  · refine Lawful.ite (fun _ => hexEscape_reads 2 ts) fun _ => ?_
    refine Lawful.ite (fun _ => hexEscape_reads 4 ts) fun _ => ?_
    refine Lawful.ite (fun _ => hexEscape_reads 8 ts) fun _ => ?_
    refine Lawful.ite (fun _ => namedEscape_reads ts) fun _ => ?_
    exact Lawful.ite (fun _ => Lawful.malformed) fun _ => List.suffix_rfl

/-! ### Sets -/

theorem memberEscape_reads (asciiOnly : Bool) (c : CodePoint) (ts : List Token) :
    Reads ts (memberEscape asciiOnly c ts) := by
  unfold memberEscape
  split
  · exact List.suffix_rfl
  · refine Lawful.ite (fun _ => List.suffix_rfl) fun _ => ?_
    refine Lawful.ite (fun _ => ?_) fun _ => ?_
    · exact (octalEscape_reads c ts).map fun _ hrest => hrest
    · exact (literalEscape_reads c ts).map fun _ hrest => hrest

theorem member_reads (asciiOnly : Bool) (ts : List Token) : Reads ts (member asciiOnly ts) := by
  cases ts with
  | nil => exact Lawful.malformed
  | cons t rest =>
      cases t with
      | plain c => exact List.suffix_cons _ _
      | escaped c => exact (memberEscape_reads asciiOnly c rest).trans (List.suffix_cons _ _)
      | dangling => exact Lawful.malformed

/-- A set is read member by member, each of which leaves a later part of the pattern. -/
theorem members_reads (asciiOnly : Bool) (fuel : Nat) (read : List Member) (ts : List Token) :
    Reads ts (members asciiOnly fuel read ts) := by
  induction fuel generalizing read ts with
  | zero => exact Lawful.malformed
  | succ fuel ih =>
      unfold members
      refine Lawful.ite (fun _ => List.drop_suffix 1 ts) fun _ => ?_
      refine (member_reads asciiOnly ts).bind fun ⟨low, rest⟩ hrest => ?_
      refine Lawful.ite (fun _ => ?_) fun _ => (ih _ rest).trans hrest
      have hbehind : rest.drop 1 <:+ ts := (List.drop_suffix 1 rest).trans hrest
      refine Lawful.ite (fun _ => (List.drop_suffix 1 _).trans hbehind) fun _ => ?_
      refine ((member_reads asciiOnly _).trans hbehind).bind fun ⟨high, rest⟩ hrest => ?_
      dsimp only
      split
      · exact Lawful.ite (fun _ => Lawful.malformed) fun _ => (ih _ _).trans hrest
      · exact Lawful.malformed

theorem charSet_reads (asciiOnly : Bool) (folding : Folding) (ts : List Token) :
    Reads ts (charSet asciiOnly folding ts) := by
  have hstart : (if next '^' ts then ts.drop 1 else ts) <:+ ts := by
    split
    · exact List.drop_suffix 1 ts
    · exact List.suffix_rfl
  refine ((members_reads asciiOnly _ _ _).trans hstart).bind fun ⟨read, rest⟩ hrest => ?_
  dsimp only
  split
  · exact hrest
  · exact hrest

end

/-! ### Repetitions -/

/-- Bounds that are read at all leave a later part of the pattern. -/
theorem suffix_of_bounds {found : (Nat × Option Nat) × List Token}
    (h : bounds ts = .ok (some found)) : found.2 <:+ ts := by
  have hlow := plainRun_suffix CodePoint.isAsciiDigit ts.length ts
  unfold bounds at h
  generalize plainRun CodePoint.isAsciiDigit ts.length ts = low at h hlow
  have hhigh : (if next ',' low.2 then plainRun CodePoint.isAsciiDigit ts.length (low.2.drop 1)
      else low).2 <:+ ts := by
    split
    · exact (plainRun_suffix _ _ _).trans ((List.drop_suffix 1 _).trans hlow)
    · exact hlow
  dsimp only at h
  generalize (if next ',' low.2 then plainRun CodePoint.isAsciiDigit ts.length (low.2.drop 1)
      else low) = high at h hhigh
  -- Whatever the bounds are, what is left stands behind the closing brace.
  have hbrace : ∀ b, (b, high.2.drop 1) = found → found.2 <:+ ts := by
    rintro b rfl
    exact (List.drop_suffix 1 _).trans hhigh
  split at h
  · exact absurd (Except.ok.inj h) (by simp)
  split at h
  · exact absurd (Except.ok.inj h) (by simp)
  split at h
  · exact absurd h (by simp [malformed, bind, Except.bind])
  split at h
  all_goals
    obtain ⟨least, -, h⟩ := Outcome.bind_eq_ok.mp h
    split at h
    · exact hbrace _ (Option.some.inj (Except.ok.inj h))
    · obtain ⟨most, -, h⟩ := Outcome.bind_eq_ok.mp h
      split at h
      · exact absurd h (by simp [malformed, bind, Except.bind])
      · exact hbrace _ (Option.some.inj (Except.ok.inj h))

theorem greed_suffix (ts : List Token) : (greed ts).2 <:+ ts := by
  unfold greed
  split
  · exact List.drop_suffix 1 ts
  · split
    · exact List.drop_suffix 1 ts
    · exact List.suffix_rfl

/-! ### Flags -/

theorem flagsOn_reads (read : List Flag) (ts : List Token) : Reads ts (flagsOn read ts) := by
  induction ts generalizing read with
  | nil => exact Lawful.malformed
  | cons t rest ih =>
      cases t with
      | escaped c => exact Lawful.malformed
      | dangling => exact Lawful.malformed
      | plain c =>
          unfold flagsOn
          refine Lawful.ite (fun _ => List.suffix_cons _ _) fun _ => ?_
          split
          · exact Lawful.malformed
          · exact Lawful.ite (fun _ => Lawful.malformed) fun _ =>
              (ih _).trans (List.suffix_cons _ _)

theorem flagsOff_reads (read : List Flag) (ts : List Token) : Reads ts (flagsOff read ts) := by
  induction ts generalizing read with
  | nil => exact Lawful.malformed
  | cons t rest ih =>
      cases t with
      | escaped c => exact Lawful.malformed
      | dangling => exact Lawful.malformed
      | plain c =>
          unfold flagsOff
          refine Lawful.ite (fun _ => ?_) fun _ => ?_
          · exact Lawful.ite (fun _ => Lawful.malformed) fun _ => List.suffix_cons _ _
          · split
            · exact Lawful.malformed
            · exact Lawful.ite (fun _ => Lawful.malformed) fun _ =>
                (ih _).trans (List.suffix_cons _ _)

theorem inlineFlags_reads (ts : List Token) : Reads ts (inlineFlags ts) := by
  refine (flagsOn_reads [] ts).bind fun ⟨⟨on, stop⟩, rest⟩ hrest => ?_
  dsimp only
  refine Lawful.ite (fun _ => hrest) fun _ => ?_
  refine Lawful.ite (fun _ => Lawful.malformed) fun _ => ?_
  refine Lawful.ite (fun _ => hrest) fun _ => ?_
  refine ((flagsOff_reads [] rest).trans hrest).bind fun ⟨off, rest⟩ hrest => ?_
  exact Lawful.ite (fun _ => Lawful.malformed) fun _ => hrest

/-! ### Names -/

theorem identifier_reads (closing : CodePoint) (ts : List Token) :
    Reads ts (identifier closing ts) :=
  (name_reads closing ts).bind fun _ hrest =>
    Lawful.ite (fun _ => hrest) fun _ => Lawful.malformed

end Regex

end PatchReview
