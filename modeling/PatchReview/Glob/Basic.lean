/-
Path globs.

A glob is read as a list of tokens.  `*` stands for a run inside one segment of a path,
`?` for one code point of a segment, `**` for any run, and `**/` and a final `/**` for
whole folders, none among them.  `[...]` stands for one code point of a class.

A class that is not closed, or that has a range from a higher to a lower code point, is
no class: its bracket then stands for itself.  A negated class never holds a slash: the
slash is put in front of its members, before ranges are read, so that a hyphen right
after the negation forms a range from the slash.
-/
import PatchReview.Text.CodePoint

namespace PatchReview

namespace Glob

/-- The separator of path segments. -/
def slash : CodePoint := '/'

/-- A class of code points, given by closed ranges. -/
structure Class where
  negated : Bool
  ranges : List (CodePoint × CodePoint)
deriving DecidableEq, Repr

namespace Class

/-- Whether a code point is of the class. -/
def holds (cls : Class) (c : CodePoint) : Bool :=
  (cls.ranges.any fun r => decide (r.1 ≤ c) && decide (c ≤ r.2)) != cls.negated

/-- Reads members from left to right: single code points, and ranges `x-y`.  A hyphen that has no
member on one side stands for itself.  There are no members if a range is reversed. -/
def members : Text → Option (List (CodePoint × CodePoint))
  | [] => some []
  | [c] => some [(c, c)]
  | [c, d] => some [(c, c), (d, d)]
  | c :: d :: e :: rest =>
    if d = '-' then
      if e < c then none else (members rest).map ((c, e) :: ·)
    else (members (d :: e :: rest)).map ((c, c) :: ·)

/-- Whether a code point negates the class at whose start it stands. -/
def isNegation (c : CodePoint) : Bool := c == '!' || c == '^'

/-- The bracket that closes a class. -/
def closing : CodePoint := ']'

/-- The body of a class in front of its closing bracket, which does not close it as the first
member. -/
def body? (t : Text) : Option Text :=
  let first := if t.head? = some closing then [closing] else []
  let rest := t.drop first.length
  if rest.elem closing then some (first ++ Text.before closing rest) else none

/-- The class whose opening bracket stands before `t`, and how much of `t` it takes. -/
def read? (t : Text) : Option (Class × Nat) := do
  let negated := (t.head?.map isNegation).getD false
  let mark := if negated then 1 else 0
  let body ← body? (t.drop mark)
  let ranges ← members (if negated then slash :: body else body)
  return (⟨negated, ranges⟩, mark + body.length + 1)

end Class

/-- A part of a glob. -/
inductive Token
  /-- This code point. -/
  | literal (c : CodePoint)
  /-- One code point, but no slash. -/
  | one
  /-- A run without slashes. -/
  | run
  /-- A run on one line. -/
  | span
  /-- Any number of folders, each with its slash. -/
  | folders
  /-- Nothing, or a slash and a run on one line. -/
  | subtree
  /-- One code point of a class. -/
  | among (cls : Class)
deriving DecidableEq, Repr

/-- Reads the tokens of a pattern; `read` holds those so far, last first, and `atSegment` says
whether a segment starts here.  A final `**` after a slash takes the slash with it. -/
def tokensFrom (read : List Token) (atSegment : Bool) : Text → List Token
  | [] => read.reverse
  | c :: t =>
    if c = '*' then
      if t.head? = some (CodePoint.ofChar '*') then
        let rest := t.drop 1
        if atSegment ∧ rest.head? = some slash then tokensFrom (.folders :: read) true (rest.drop 1)
        else if atSegment ∧ rest = [] ∧ read ≠ [] then (.subtree :: read.drop 1).reverse
        else tokensFrom (.span :: read) false rest
      else tokensFrom (.run :: read) false t
    else if c = '?' then tokensFrom (.one :: read) false t
    else if c = '[' then
      match Class.read? t with
      | some (cls, used) => tokensFrom (.among cls :: read) false (t.drop used)
      | none => tokensFrom (.literal c :: read) false t
    else tokensFrom (.literal c :: read) (c = slash) t
termination_by t => t.length
decreasing_by all_goals (simp_wf; try omega)

/-- The tokens of a pattern. -/
def tokens (pattern : Text) : List Token := tokensFrom [] true pattern

end Glob

end PatchReview
