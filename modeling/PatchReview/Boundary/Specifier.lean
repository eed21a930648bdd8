/-
Module specifiers and paths.

Boundaries compare paths written with single slashes.  A backslash separates as a slash
does, a run of separators counts once, and a specifier is compared without the leading
`./` and `../` that only say where the importing file stands.
-/
import PatchReview.Text.CodePoint

namespace PatchReview

namespace Text

/-- Keeps one slash of each run. -/
def collapseSlashes : Text → Text
  | [] => []
  | c :: t =>
    if c = '/' ∧ t.head? = some (CodePoint.ofChar '/') then collapseSlashes t
    else c :: collapseSlashes t

/-- A backslash separates as a slash does. -/
def slashOfBackslash (c : CodePoint) : CodePoint := if c = '\\' then '/' else c

/-- A path with single slashes as its separators. -/
def slashed (path : Text) : Text := collapseSlashes (path.map slashOfBackslash)

/-- Drops the leading run of `./` and `../`. -/
def dropRelative : Text → Text
  | c :: d :: rest =>
    if c = '.' ∧ d = '/' then dropRelative rest
    else
      match rest with
      | [] => [c, d]
      | e :: after =>
        if c = '.' ∧ d = '.' ∧ e = '/' then dropRelative after else c :: d :: e :: after
  | t => t

/-- A specifier as boundaries compare it. -/
def normalSpecifier (specifier : Text) : Text := dropRelative (slashed specifier)

end Text

end PatchReview
