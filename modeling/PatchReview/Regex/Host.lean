/-
What patterns are read on.

Two things that reading a pattern depends on are not in the pattern: the names that
characters go by, which a pattern may use in place of the characters, and the stack,
which holds the groups that are open.  The names come from a table that grows with every
edition of Unicode, and how much the stack holds is known only where the program runs, so
both are given by a host.
-/
import PatchReview.Text.CodePoint

namespace PatchReview

/-- What patterns are read on. -/
class Host where
  /-- The character that goes by a name. -/
  characterNamed? : Text → Option CodePoint
  /-- Whether the stack suffices for a pattern, up to its first fault if it has one. -/
  bears : Text → Bool

namespace Regex

/-- How deep groups are open in a pattern, from a place on where so many are.  A parenthesis behind
a backslash opens and closes nothing.  In a set or a comment neither does any other, and as long as
it is `certain` that none of them has begun a closing parenthesis counts; an opening one always
does. -/
def nestingFrom (certain : Bool) (depth : Nat) : Text → Nat
  | [] => depth
  | c :: t =>
    if c = '\\' then
      match t with
      | [] => depth
      | _ :: t => nestingFrom certain depth t
    else if c = '(' then nestingFrom certain (depth + 1) t
    else if c = ')' ∧ certain then max depth (nestingFrom certain (depth - 1) t)
    else nestingFrom (certain && c != '[' && c != '#') depth t

/-- How many groups of a pattern are open at once, at most. -/
def nesting (pattern : Text) : Nat := nestingFrom true 0 pattern

end Regex

namespace Host

/-- Whatever is nested, in a pattern or in a value, the stack of any host suffices for so many
levels. -/
def commonNesting : Nat := 200

/-- The digits by the ends of their names. -/
def digitNames : List Text :=
  ["ZERO", "ONE", "TWO", "THREE", "FOUR", "FIVE", "SIX", "SEVEN", "EIGHT", "NINE"]

/-- The names of signs in ASCII, and of common signs beyond it. -/
def signNames : List (String × Char) :=
  [("SPACE", ' '), ("EXCLAMATION MARK", '!'), ("QUOTATION MARK", '"'), ("NUMBER SIGN", '#'),
    ("DOLLAR SIGN", '$'), ("PERCENT SIGN", '%'), ("AMPERSAND", '&'), ("APOSTROPHE", '\''),
    ("LEFT PARENTHESIS", '('), ("RIGHT PARENTHESIS", ')'), ("ASTERISK", '*'), ("PLUS SIGN", '+'),
    ("COMMA", ','), ("HYPHEN-MINUS", '-'), ("FULL STOP", '.'), ("SOLIDUS", '/'), ("COLON", ':'),
    ("SEMICOLON", ';'), ("LESS-THAN SIGN", '<'), ("EQUALS SIGN", '='), ("GREATER-THAN SIGN", '>'),
    ("QUESTION MARK", '?'), ("COMMERCIAL AT", '@'), ("LEFT SQUARE BRACKET", '['),
    ("REVERSE SOLIDUS", '\\'), ("RIGHT SQUARE BRACKET", ']'), ("CIRCUMFLEX ACCENT", '^'),
    ("LOW LINE", '_'), ("GRAVE ACCENT", '\x60'), ("LEFT CURLY BRACKET", '\x7b'),
    ("VERTICAL LINE", '|'), ("RIGHT CURLY BRACKET", '\x7d'), ("TILDE", '~'),
    ("NO-BREAK SPACE", '\u00a0'), ("POUND SIGN", '\u00a3'), ("SECTION SIGN", '\u00a7'),
    ("COPYRIGHT SIGN", '\u00a9'), ("LEFT-POINTING DOUBLE ANGLE QUOTATION MARK", '\u00ab'),
    ("RIGHT-POINTING DOUBLE ANGLE QUOTATION MARK", '\u00bb'), ("MIDDLE DOT", '\u00b7'),
    ("EN DASH", '\u2013'), ("EM DASH", '\u2014'), ("LEFT SINGLE QUOTATION MARK", '\u2018'),
    ("RIGHT SINGLE QUOTATION MARK", '\u2019'), ("LEFT DOUBLE QUOTATION MARK", '\u201c'),
    ("RIGHT DOUBLE QUOTATION MARK", '\u201d'), ("BULLET", '\u2022'),
    ("HORIZONTAL ELLIPSIS", '\u2026'), ("EURO SIGN", '\u20ac'), ("ZERO WIDTH SPACE", '\u200b'),
    ("ZERO WIDTH NO-BREAK SPACE", '\ufeff')]

/-- The letter of ASCII that goes by a name in capital letters. -/
def letterNamed? (name : Text) : Option CodePoint :=
  match Text.dropStart? "LATIN CAPITAL LETTER " name, Text.dropStart? "LATIN SMALL LETTER " name with
  | some [c], _ => if c.isAsciiLetter then some c else none
  | none, some [c] => if c.isAsciiLetter then some c.asciiLower else none
  | _, _ => none

/-- The digit of ASCII that goes by a name in capital letters. -/
def digitNamed? (name : Text) : Option CodePoint := do
  let digit ← Text.dropStart? "DIGIT " name
  CodePoint.ofNat? (48 + (← digitNames.idxOf? digit))

/-- The sign that goes by a name in capital letters. -/
def signNamed? (name : Text) : Option CodePoint :=
  (signNames.find? fun sign => Text.ofString sign.1 == name).map fun sign => sign.2

/-- A host that knows the characters of ASCII and some signs, and whose stack holds a thousand
frames, of which a group takes two; a pattern is taken as a whole, faults or not. -/
instance small : Host where
  characterNamed? name :=
    let name := name.asciiUpper
    letterNamed? name <|> digitNamed? name <|> signNamed? name
  bears pattern := Regex.nesting pattern ≤ 460

end Host

end PatchReview
