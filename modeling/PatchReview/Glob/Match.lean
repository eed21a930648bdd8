/-
Matching paths against globs.

A glob matches a whole path; a line feed may follow the match at the very end.  Each
token passes what it leaves of the path on to the tokens behind it, and a run tries
every length.
-/
import PatchReview.Glob.Basic

namespace PatchReview

namespace Glob

/-- Whether some run of code points that satisfy `p` can be dropped so that `next` accepts the
rest. -/
def afterRun (p : CodePoint → Bool) (next : Text → Bool) : Text → Bool
  | [] => next []
  | c :: t => next (c :: t) || (p c && afterRun p next t)

/-- Whether a code point stays on its line. -/
def onLine (c : CodePoint) : Bool := c != CodePoint.lineFeed

/-- Accepts a slash in front of what `next` accepts. -/
def afterSlash (next : Text → Bool) : Text → Bool
  | [] => false
  | c :: t => c == slash && next t

/-- Accepts one code point that satisfies `p` in front of what `next` accepts. -/
def afterOne (p : CodePoint → Bool) (next : Text → Bool) : Text → Bool
  | [] => false
  | c :: t => p c && next t

/-- The end of a path. -/
def atEnd (t : Text) : Bool := t == [] || t == [CodePoint.lineFeed]

/-- Whether the tokens match a path up to its end. -/
def accepts : List Token → Text → Bool
  | [] => atEnd
  | .literal c :: rest => afterOne (· == c) (accepts rest)
  | .one :: rest => afterOne (· != slash) (accepts rest)
  | .among cls :: rest => afterOne cls.holds (accepts rest)
  | .run :: rest => afterRun (· != slash) (accepts rest)
  | .span :: rest => afterRun onLine (accepts rest)
  | .folders :: rest => fun t => accepts rest t || afterRun onLine (afterSlash (accepts rest)) t
  | .subtree :: rest => fun t => accepts rest t || afterSlash (afterRun onLine (accepts rest)) t

/-- Whether a path matches a pattern. -/
def isMatch (pattern path : Text) : Bool := accepts (tokens pattern) path

/-- Whether a path matches one of some patterns. -/
def matchesAny (path : Text) (patterns : List Text) : Bool :=
  patterns.any fun pattern => isMatch pattern path

end Glob

end PatchReview
