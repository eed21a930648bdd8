/-
Imports on a line of code.

A line imports what stands in quotes behind the word `from`, or else behind the word
`import`.  This covers exports from other modules as well, since they name their module
behind `from`.  What follows `//` outside quotes is a comment and is not looked at;
inside quotes a backslash takes the code point behind it along.
-/
import PatchReview.Text.Blank
import PatchReview.Text.Word

namespace PatchReview

namespace Import

/-- The quote that opens a template. -/
def backquote : CodePoint := Char.ofNat 96

/-- The quotes that a comment mark may stand in. -/
def isQuote (c : CodePoint) : Bool := c == '\'' || c == '"' || c == backquote

/-- The quotes around a specifier. -/
def isPlainQuote (c : CodePoint) : Bool := c == '\'' || c == '"'

/-- A line up to its comment; `quote` is the quote that is open. -/
def code (quote : Option CodePoint) : Text → Text
  | [] => []
  | c :: t =>
    match quote with
    | some q =>
      if c = '\\' then
        match t with
        | [] => [c]
        | d :: t => c :: d :: code quote t
      else c :: code (if c = q then none else quote) t
    | none =>
      if isQuote c then c :: code (some c) t
      else if c = '/' ∧ t.head? = some (CodePoint.ofChar '/') then []
      else c :: code none t

/-- What stands in quotes behind a keyword and white space. -/
def quotedAfter (keyword t : Text) : Option Text :=
  match Text.dropStart? keyword t with
  | none => none
  | some rest =>
    match rest with
    | [] => none
    | c :: _ =>
      if !c.isBlank then none
      else
        match rest.trimStart with
        | [] => none
        | q :: rest =>
          let specifier := rest.takeWhile fun c => !isPlainQuote c
          if isPlainQuote q && !specifier.isEmpty && specifier.length < rest.length then
            some specifier
          else none

/-- The first place where a keyword starts a word and a quoted text follows; `inWord` says whether
a word code point stands before. -/
def search (keyword : Text) (inWord : Bool) : Text → Option Text
  | [] => none
  | c :: t =>
    match if inWord then none else quotedAfter keyword (c :: t) with
    | some specifier => some specifier
    | none => search keyword c.isWord t

/-- The module that a line imports. -/
def specifier? (line : Text) : Option Text :=
  let code := (code none line).trim
  (search "from" false code).or (search "import" false code)

end Import

end PatchReview
