/-
Which patterns are refused.

Three things are not forgiven: a bound that cannot be counted, flags for the whole pattern
that ask for ASCII and for Unicode at once, and groups that are nested deeper than the
stack bears.  All can be seen in the text of the pattern.  The parser never reads a token
twice, so it looks at nothing but later parts of the pattern, and the flags that it has
gathered are those that such parts begin with.  A pattern without the three things is
compiled or malformed, whatever else is in it.
-/
import Mathlib.Data.List.Infix
import PatchReview.Proofs.Regex.Scan
import PatchReview.Signal

namespace PatchReview

namespace Regex

/-! ### What a pattern asks for -/

/-- Whether the bounds that a part of a pattern begins with, if there are any, can be counted. -/
def boundsFit : List Token → Bool
  | .plain c :: behind =>
    if c = '\x7b' then
      match bounds behind with
      | .ok _ => true
      | .error e => e = .malformed
    else true
  | _ => true

/-- The flags for the whole pattern that a part of it begins with. -/
def flagsAt : List Token → List Flag
  | .plain c :: behind =>
    if c = '(' then
      match opening behind with
      | .ok (.flags on, _) => on
      | _ => []
    else []
  | _ => []

/-- All flags that a pattern sets for itself as a whole. -/
def wholeFlags (ts : List Token) : List Flag := ts.tails.flatMap flagsAt

/-- A pattern whose bounds can be counted, whose flags go together, and whose groups are not nested
too deep. -/
structure Orderly (pattern : Text) : Prop where
  bounds : ∀ part ∈ (tokens pattern).tails, boundsFit part = true
  flags : ¬(Flag.ascii ∈ wholeFlags (tokens pattern) ∧ Flag.unicode ∈ wholeFlags (tokens pattern))
  nesting : nesting pattern ≤ Host.commonNesting

instance (pattern : Text) : Decidable (Orderly pattern) :=
  decidable_of_iff
    ((∀ part ∈ (tokens pattern).tails, boundsFit part = true) ∧
      ¬(Flag.ascii ∈ wholeFlags (tokens pattern) ∧ Flag.unicode ∈ wholeFlags (tokens pattern)) ∧
      nesting pattern ≤ Host.commonNesting)
    ⟨fun h => ⟨h.1, h.2.1, h.2.2⟩, fun h => ⟨h.bounds, h.flags, h.nesting⟩⟩

end Regex

/-- The stack of the host suffices for every pattern that is not nested too deep. -/
def Host.Adequate [Host] : Prop :=
  ∀ pattern, Regex.nesting pattern ≤ commonNesting → bears pattern = true

theorem Host.adequate_small : Host.small.Adequate := fun _ h =>
  decide_eq_true (h.trans (by decide))

namespace Regex

/-! ### Items -/

variable {scope : Scope} {a : Account} {ts : List Token}

theorem reference_lawful (scope : Scope) (a : Account) (group : Nat) :
    Lawful (fun _ => True) (reference scope a group) := by
  unfold reference
  split
  · exact Lawful.ite (fun _ => trivial) fun _ => Lawful.malformed
  · exact Lawful.malformed

theorem numbered_reads (scope : Scope) (a : Account) (first : CodePoint) (ts : List Token) :
    Reads ts (numbered scope a first ts) := by
  have hsecond := plainRun_suffix CodePoint.isAsciiDigit 1 ts
  unfold numbered
  generalize plainRun CodePoint.isAsciiDigit 1 ts = second at hsecond
  obtain ⟨second, rest⟩ := second
  have hthird := (plainRun_suffix isOctal 1 rest).trans hsecond
  dsimp only
  generalize plainRun isOctal 1 rest = third at hthird
  refine Lawful.ite (fun _ => ?_) fun _ => (reference_lawful scope a _).bind fun _ _ => hsecond
  exact Lawful.ite (fun _ => Lawful.malformed) fun _ => (codePoint_lawful _).bind fun _ _ => hthird

theorem escape_reads [Host] (scope : Scope) (a : Account) (c : CodePoint) (ts : List Token) :
    Reads ts (escape scope a c ts) := by
  unfold escape
  refine Lawful.ite (fun _ => List.suffix_rfl) fun _ => ?_
  refine Lawful.ite (fun _ => List.suffix_rfl) fun _ => ?_
  refine Lawful.ite (fun _ => List.suffix_rfl) fun _ => ?_
  refine Lawful.ite (fun _ => List.suffix_rfl) fun _ => ?_
  split
  · exact List.suffix_rfl
  · refine Lawful.ite (fun _ => ?_) fun _ => ?_
    · exact (octalEscape_reads c ts).map fun _ hrest => hrest
    · refine Lawful.ite (fun _ => numbered_reads scope a c ts) fun _ => ?_
      exact (literalEscape_reads c ts).map fun _ hrest => hrest

theorem repeatLast_reads (items : List Item) (least : Nat) (most : Option Nat) (ts : List Token) :
    Reads ts (repeatLast items least most ts) := by
  cases items with
  | nil => exact Lawful.malformed
  | cons item before => exact Lawful.ite (fun _ => Lawful.malformed) fun _ => greed_suffix ts

theorem skipLine_suffix (ts : List Token) : skipLine ts <:+ ts := by
  induction ts with
  | nil => exact List.suffix_rfl
  | cons t ts ih =>
      unfold skipLine
      split
      · exact List.suffix_cons _ _
      · exact ih.trans (List.suffix_cons _ _)

theorem skipComment_lawful (ts : List Token) : Lawful (· <:+ ts) (skipComment ts) := by
  induction ts with
  | nil => exact Lawful.malformed
  | cons t ts ih =>
      have hrest : Lawful (· <:+ t :: ts) (skipComment ts) :=
        ih.mono fun _ h => h.trans (List.suffix_cons _ _)
      cases t with
      | dangling => exact Lawful.malformed
      | plain c => exact Lawful.ite (fun _ => List.suffix_cons _ _) fun _ => hrest
      | escaped c => exact Lawful.ite (fun _ => List.suffix_cons _ _) fun _ => hrest

theorem close_lawful (ts : List Token) : Lawful (· <:+ ts) (close ts) :=
  Lawful.ite (fun _ => List.drop_suffix 1 ts) fun _ => Lawful.malformed

theorem opening_reads (ts : List Token) : Reads ts (opening ts) := by
  unfold opening
  refine Lawful.ite (fun _ => List.suffix_rfl) fun _ => ?_
  have hbehind := List.drop_suffix 1 ts
  split
  · rename_i c rest hdrop
    rw [hdrop] at hbehind
    have hrest : rest <:+ ts := (List.suffix_cons _ _).trans hbehind
    have hmore : rest.drop 1 <:+ ts := (List.drop_suffix 1 rest).trans hrest
    refine Lawful.ite (fun _ => ?_) fun _ => ?_
    · refine Lawful.ite (fun _ => ?_) fun _ => ?_
      · exact ((identifier_reads _ _).trans hmore).map fun _ h => h
      · refine Lawful.ite (fun _ => ?_) fun _ => Lawful.malformed
        exact ((identifier_reads _ _).trans hmore).map fun _ h => h
    refine Lawful.ite (fun _ => hrest) fun _ => ?_
    refine Lawful.ite (fun _ => hrest) fun _ => ?_
    refine Lawful.ite (fun _ => hrest) fun _ => ?_
    refine Lawful.ite (fun _ => hrest) fun _ => ?_
    refine Lawful.ite (fun _ => ?_) fun _ => ?_
    · refine Lawful.ite (fun _ => hmore) fun _ => ?_
      exact Lawful.ite (fun _ => hmore) fun _ => Lawful.malformed
    refine Lawful.ite (fun _ => ?_) fun _ => ?_
    · exact ((name_reads _ _).trans hrest).map fun _ h => h
    refine Lawful.ite (fun _ => hrest) fun _ => ?_
    refine Lawful.ite (fun _ => ?_) fun _ => Lawful.malformed
    refine ((inlineFlags_reads _).trans hbehind).map fun ⟨group, rest⟩ h => ?_
    cases group <;> exact h
  · exact Lawful.malformed

/-! ### The account -/

/-- A place that the parser can come to: it stands before a later part of the pattern, and the flags
that it knows of are set by the pattern. -/
structure Within (whole : List Token) (a : Account) (ts : List Token) : Prop where
  part : ts <:+ whole
  flags : ∀ f ∈ a.flags, f ∈ wholeFlags whole

theorem opened_lawful (a : Account) (name : Option Text) :
    Lawful (fun r => r.2.flags = a.flags) (a.opened name) := by
  unfold Account.opened
  cases name with
  | none => rfl
  | some name => exact Lawful.ite (fun _ => Lawful.malformed) fun _ => rfl

theorem lookedBack_flags (a : Account) (width : Option Nat) :
    (a.lookedBack width).flags = a.flags := by
  unfold Account.lookedBack
  split
  · split <;> rfl
  · rfl

theorem conditionGroup_lawful (a : Account) (t : Text) :
    Lawful (fun r => r.2.flags = a.flags) (conditionGroup a t) := by
  unfold conditionGroup
  extract_lets answer
  have hanswer : ∀ r : Nat × Account, r.2.flags = a.flags →
      Lawful (fun r => r.2.flags = a.flags) (answer r) :=
    fun r hr => Lawful.ite (fun _ => hr) fun _ => Lawful.malformed
  refine Lawful.ite (fun _ => ?_) fun _ => ?_
  · split
    · refine Lawful.bind ?_ hanswer
      rfl
    · exact Lawful.malformed
  · split
    · refine Lawful.bind ?_ hanswer
      rfl
    · exact Lawful.malformed

/-! ### The parser -/

variable {whole : List Token}

/-- The bounds in a pattern can be counted. -/
def Bounded (whole : List Token) : Prop := ∀ part, part <:+ whole → boundsFit part = true

/-- Bounds that can be counted are read, or they are malformed. -/
theorem Bounded.bounds_lawful (hbounded : Bounded whole)
    (h : .plain (CodePoint.ofChar '\x7b') :: ts <:+ whole) :
    Lawful (fun found => ∀ b, found = some b → b.2 <:+ ts) (bounds ts) := by
  have hfit := hbounded _ h
  rw [boundsFit, if_pos rfl] at hfit
  cases hread : bounds ts with
  | error e =>
      rw [hread] at hfit
      exact show e = .malformed by simpa using hfit
  | ok found =>
      rintro b rfl
      exact suffix_of_bounds hread

/-- Flags that an opening parenthesis sets for the whole pattern are among those of the pattern. -/
theorem mem_wholeFlags {on : List Flag} {rest : List Token}
    (h : .plain (CodePoint.ofChar '(') :: ts <:+ whole)
    (hopen : opening ts = .ok (.flags on, rest)) : ∀ f ∈ on, f ∈ wholeFlags whole := by
  intro f hf
  refine List.mem_flatMap.mpr ⟨_, (List.mem_tails _ _).mpr h, ?_⟩
  rw [flagsAt, if_pos rfl, hopen]
  exact hf

/-- What the parser returns stands at a place that it can come to. -/
abbrev Parses {α : Type} (whole : List Token)
    (x : Except RegexError (α × Account × List Token)) : Prop :=
  Lawful (fun r => Within whole r.2.1 r.2.2) x

/-- Reading on leaves the parser at a place that it can come to. -/
theorem Within.read {rest : List Token} (h : Within whole a ts) (hrest : rest <:+ ts) :
    Within whole a rest := ⟨hrest.trans h.part, h.flags⟩

/-- Only the flags of an account matter here. -/
theorem Within.account {a' : Account} (h : Within whole a ts) (hflags : a'.flags = a.flags) :
    Within whole a' ts := ⟨h.part, by rw [hflags]; exact h.flags⟩

variable [Host]

/-- The parser is lawful wherever it starts. -/
structure ParserLawful (whole : List Token) (fuel : Nat) : Prop where
  alternatives : ∀ scope first a ts, Within whole a ts →
    Parses whole (alternatives fuel scope first a ts)
  sequence : ∀ scope first items a ts, Within whole a ts →
    Parses whole (sequence fuel scope first items a ts)
  group : ∀ scope a kind ts, Within whole a ts → Parses whole (group fuel scope a kind ts)

theorem alternatives_lawful {fuel : Nat} (ih : ParserLawful whole fuel) (first : Bool)
    (h : Within whole a ts) : Parses whole (alternatives (fuel + 1) scope first a ts) := by
  unfold alternatives
  refine (ih.sequence scope first [] a ts h).bind fun ⟨items, a, rest⟩ hitems => ?_
  refine Lawful.ite (fun _ => ?_) fun _ => hitems
  refine (ih.alternatives _ _ _ _ (hitems.read (List.drop_suffix 1 rest))).bind ?_
  exact fun _ hothers => hothers

theorem group_lawful {fuel : Nat} (ih : ParserLawful whole fuel) (kind : Opening)
    (h : Within whole a ts) : Parses whole (group (fuel + 1) scope a kind ts) := by
  have hclose : ∀ {α : Type} {a : Account} {ts : List Token} (item : α), Within whole a ts →
      Parses whole (do return (item, a, ← close ts)) := fun item h =>
    (close_lawful _).bind fun _ hrest => h.read hrest
  unfold group
  cases kind with
  | comment => exact Lawful.malformed
  | flags on => exact Lawful.malformed
  | reference name =>
      dsimp only
      split
      · exact Lawful.malformed
      · exact (reference_lawful scope a _).bind fun _ _ => h
  | capture name =>
      refine (opened_lawful a name).bind fun ⟨group, a⟩ hflags => ?_
      refine (ih.alternatives _ _ _ _ (h.account hflags)).bind fun ⟨body, a, ts⟩ hbody => ?_
      exact (close_lawful ts).bind fun _ hrest => (hbody.read hrest).account rfl
  | plain on off =>
      refine (ih.alternatives _ _ _ _ h).bind fun ⟨body, a, ts⟩ hbody => ?_
      exact hclose _ hbody
  | atomic =>
      refine (ih.alternatives _ _ _ _ h).bind fun ⟨body, a, ts⟩ hbody => ?_
      exact hclose _ hbody
  | look back negated =>
      refine (ih.alternatives _ _ _ _ ?_).bind fun ⟨body, a, ts⟩ hbody => ?_
      · exact h.account (by split <;> rfl)
      · refine (close_lawful ts).bind fun rest hrest => (hbody.read hrest).account ?_
        dsimp only
        split
        · exact lookedBack_flags a body.width
        · rfl
  | condition name =>
      refine (conditionGroup_lawful a name).bind fun ⟨group, a⟩ hflags => ?_
      refine (ih.sequence _ _ _ _ _ (h.account hflags)).bind fun ⟨yes, a, ts⟩ hyes => ?_
      dsimp only
      refine Lawful.ite (fun _ => ?_) fun _ => hclose _ hyes
      have hmore := hyes.read (List.drop_suffix 1 ts)
      refine (ih.sequence _ _ _ _ _ hmore).bind fun ⟨no, a, ts⟩ hno => ?_
      exact Lawful.ite (fun _ => Lawful.malformed) fun _ => hclose _ hno

theorem sequence_lawful {fuel : Nat} (hbounded : Bounded whole) (ih : ParserLawful whole fuel)
    (first : Bool) (items : List Item) (h : Within whole a ts) :
    Parses whole (sequence (fuel + 1) scope first items a ts) := by
  have hon : ∀ {scope first items} {a' : Account} {rest : List Token}, rest <:+ ts →
      a'.flags = a.flags → Parses whole (sequence fuel scope first items a' rest) :=
    fun hrest hflags => ih.sequence _ _ _ _ _ ((h.read hrest).account hflags)
  unfold sequence
  cases ts with
  | nil => exact h
  | cons t rest =>
      have hrest : rest <:+ t :: rest := List.suffix_cons t rest
      cases t with
      | dangling => exact Lawful.malformed
      | escaped c =>
          exact ((escape_reads scope a c rest).trans hrest).bind fun _ hrest => hon hrest rfl
      | plain c =>
          dsimp only
          refine Lawful.ite (fun _ => h) fun _ => ?_
          refine Lawful.ite (fun _ => hon hrest rfl) fun _ => ?_
          refine Lawful.ite (fun _ => hon ((skipLine_suffix rest).trans hrest) rfl) fun _ => ?_
          refine Lawful.ite (fun _ => ?_) fun _ => ?_
          · exact ((charSet_reads _ _ rest).trans hrest).bind fun _ hrest => hon hrest rfl
          refine Lawful.ite (fun _ => hon hrest rfl) fun _ => ?_
          refine Lawful.ite (fun _ => hon hrest rfl) fun _ => ?_
          refine Lawful.ite (fun _ => hon hrest rfl) fun _ => ?_
          refine Lawful.ite (fun hparen => ?_) fun _ => ?_
          · subst hparen
            have hopen : Lawful (fun scanned => scanned.2 <:+ rest ∧ opening rest = .ok scanned)
                (opening rest) :=
              (opening_reads rest).of_eq_ok fun _ hopen hread => ⟨hread, hopen⟩
            refine hopen.bind fun ⟨kind, behind⟩ ⟨hread, hopen⟩ => ?_
            have hbehind := hread.trans hrest
            cases kind with
            | comment =>
                refine (skipComment_lawful behind).bind fun _ hskip => ?_
                exact hon (hskip.trans hbehind) rfl
            | flags on =>
                refine Lawful.ite (fun _ => ?_) fun _ => Lawful.malformed
                refine ih.sequence _ _ _ _ _ ⟨hbehind.trans h.part, fun f hf => ?_⟩
                rcases List.mem_append.mp hf with hf | hf
                · exact h.flags f hf
                · exact mem_wholeFlags h.part hopen f hf
            | capture | plain | atomic | look | reference | condition =>
                refine (ih.group _ _ _ _ (h.read hbehind)).bind fun ⟨item, a, rest⟩ hgroup => ?_
                exact ih.sequence _ _ _ _ _ hgroup
          split
          · exact ((repeatLast_reads _ _ _ rest).trans hrest).bind fun _ hrest => hon hrest rfl
          · refine Lawful.ite (fun hbrace => ?_) fun _ => hon hrest rfl
            subst hbrace
            refine (hbounded.bounds_lawful h.part).bind fun found hfound => ?_
            cases found with
            | none => exact hon hrest rfl
            | some b =>
                have hb := (hfound b rfl).trans hrest
                exact ((repeatLast_reads _ _ _ _).trans hb).bind fun _ hrest => hon hrest rfl

/-- **The parser is lawful** on every pattern whose bounds can be counted. -/
theorem parser_lawful (hbounded : Bounded whole) (fuel : Nat) : ParserLawful whole fuel := by
  induction fuel with
  | zero =>
      exact ⟨fun _ _ _ _ _ => Lawful.malformed, fun _ _ _ _ _ _ => Lawful.malformed,
        fun _ _ _ _ _ => Lawful.malformed⟩
  | succ fuel ih =>
      exact ⟨fun _ first _ _ h => alternatives_lawful ih first h,
        fun _ first items _ _ h => sequence_lawful hbounded ih first items h,
        fun _ _ kind _ h => group_lawful ih kind h⟩

/-- **An orderly pattern is compiled or malformed**, whatever else is in it. -/
theorem compile_lawful (hhost : Host.Adequate) {pattern : Text} (h : Orderly pattern) :
    Lawful (fun _ => True) (compile pattern) := by
  have hbounded : Bounded (tokens pattern) :=
    fun part hpart => h.bounds part ((List.mem_tails _ _).mpr hpart)
  have hstart : Within (tokens pattern) {} (tokens pattern) := ⟨List.suffix_rfl, by simp⟩
  have hbears := hhost pattern h.nesting
  have hparses := (parser_lawful hbounded (3 * (tokens pattern).length + 3)).alternatives
  refine Lawful.ite (fun hnot => absurd hbears (by simpa using hnot)) fun _ => ?_
  refine (hparses _ _ _ _ hstart).bind fun ⟨item, a, rest⟩ hend => ?_
  refine Lawful.ite (fun hflags => ?_) fun _ => ?_
  · rw [Bool.and_eq_true, List.elem_iff, List.elem_iff] at hflags
    exact absurd ⟨hend.flags _ hflags.1, hend.flags _ hflags.2⟩ h.flags
  · exact Lawful.ite (fun _ => Lawful.malformed) fun _ => trivial

end Regex

namespace Signal

/-- A signal whose pattern, if it has one, is orderly. -/
def Orderly (signal : Text) : Prop := ∀ pattern ∈ pattern? signal, Regex.Orderly pattern

instance (signal : Text) : Decidable (Orderly signal) :=
  inferInstanceAs (Decidable (∀ pattern ∈ pattern? signal, Regex.Orderly pattern))

/-- **An orderly signal can be made ready**, be its pattern broken or not. -/
theorem exists_compile_eq_ok [Host] (hhost : Host.Adequate) {signal : Text} (h : Orderly signal) :
    ∃ ready, compile signal = .ok ready := by
  unfold compile
  cases hpattern : pattern? signal with
  | none => exact ⟨_, rfl⟩
  | some pattern =>
      have hlawful := Regex.compile_lawful hhost (h pattern hpattern)
      cases hcompile : Regex.compile pattern with
      | ok compiled => exact ⟨.regex compiled, by simp only [hcompile]⟩
      | error e =>
          rw [hcompile] at hlawful
          have hmalformed : e = .malformed := hlawful
          exact ⟨.never, by simp only [hcompile, hmalformed]⟩

/-- A character may go by its name, and only by a name that the host knows. -/
example : (compile "regex:\\N\x7bEM DASH\x7d").toOption.map (holds "a — b") = some true ∧
    compile "regex:\\N\x7bEN DASHES\x7d" = .ok .never := by
  decide +kernel

/-- What is not forgiven: a bound that cannot be counted, flags that exclude each other, and groups
that are nested too deep. -/
example : compile "regex:a\x7b4294967295\x7d" = .error .repetitionTooLarge ∧
    compile "regex:(?a)(?u)a" = .error .flagsIncompatible ∧
    compile (regexMark ++ List.replicate 500 (CodePoint.ofChar '(')) = .error .nestedTooDeep := by
  decide +kernel

end Signal

end PatchReview
