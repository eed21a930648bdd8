/-
What it means for a signal to match a line.

Signals are made ready before they are tested, and making one ready may be refused.  A
review that comes to a result has met no refusal, and then the two ways of testing, all
signals against all lines and one line against the signals, come to the same thing: some
signal matches some line.  That is why leaving a file at once when no signal holds in it
loses nothing.
-/
import PatchReview.Proofs.Outcome
import PatchReview.Signal

namespace PatchReview

namespace Signal

variable [Host] {line : Text} {lines signals : List Text}

/-- Whether a signal matches a line; one that cannot be made ready matches none. -/
def matchesLine (signal line : Text) : Bool :=
  match compile signal with
  | .ok ready => ready.holds line
  | .error _ => false

/-- Whether some signal matches a line. -/
def someMatches (signals : List Text) (line : Text) : Bool :=
  signals.any fun signal => matchesLine signal line

theorem matchesLine_of_compile {signal : Text} {ready : Signal} (h : compile signal = .ok ready) :
    matchesLine signal line = ready.holds line := by
  rw [matchesLine, h]

/-- Testing signals one by one against a line finds out whether some signal matches it. -/
theorem lineMatches_eq (h : ∀ s ∈ signals, ∃ ready, compile s = .ok ready) :
    lineMatches line signals = .ok (someMatches signals line) := by
  induction signals with
  | nil => rfl
  | cons s signals ih =>
      obtain ⟨ready, hready⟩ := h s (by simp)
      have hrest := ih fun x hx => h x (by simp [hx])
      rw [lineMatches, hready]
      simp only [bind, Except.bind, someMatches, List.any_cons, matchesLine_of_compile hready]
      cases hholds : ready.holds line with
      | true => simp [pure, Except.pure]
      | false => simpa [someMatches] using hrest

/-- Signals that are ready hold of a line if some signal matches it. -/
theorem any_holds_eq {ready : List Signal} (hready : signals.mapM compile = .ok ready)
    (line : Text) : ready.any (holds line) = someMatches signals line := by
  induction Outcome.mapM_eq_ok.mp hready with
  | nil => rfl
  | cons hs hrest ih =>
      rw [List.any_cons, ih (Outcome.mapM_eq_ok.mpr hrest), someMatches, someMatches,
        List.any_cons, matchesLine_of_compile hs]

/-- Signals that can all be made ready can be tested. -/
theorem anyMatches_of_compile (h : ∀ s ∈ signals, ∃ ready, compile s = .ok ready) :
    anyMatches lines signals = .ok (lines.any (someMatches signals)) := by
  obtain ⟨ready, hready⟩ := Outcome.exists_mapM_eq_ok h
  rw [anyMatches, hready]
  exact congrArg Except.ok (List.any_congr rfl fun line => any_holds_eq hready line)

/-- **Testing all signals against all lines** finds out whether some signal matches some line, and
comes to a result only if every signal can be made ready. -/
theorem anyMatches_eq_ok {b : Bool} (h : anyMatches lines signals = .ok b) :
    (∀ s ∈ signals, ∃ ready, compile s = .ok ready) ∧ b = lines.any (someMatches signals) := by
  obtain ⟨ready, hready, hb⟩ := Outcome.bind_eq_ok.mp h
  refine ⟨Outcome.exists_ok_of_mapM hready, ?_⟩
  rw [← Outcome.pure_eq_ok.mp hb]
  exact List.any_congr rfl fun line => any_holds_eq hready line

end Signal

end PatchReview
