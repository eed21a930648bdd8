/-
The leaves of patterns.

A pattern is cut into tokens: a code point that stands alone, or one behind a
backslash.  From tokens the leaves are read: escapes, bracketed sets, the bounds of
repetitions, inline flags and the names of groups.
-/
import PatchReview.Regex.Class
import PatchReview.Regex.Host
import PatchReview.Text.Identifier

namespace PatchReview

namespace Regex

variable [Host]

/-- A token of a pattern. -/
inductive Token
  /-- A code point that stands alone. -/
  | plain (c : CodePoint)
  /-- A code point behind a backslash. -/
  | escaped (c : CodePoint)
  /-- A backslash with nothing behind it. -/
  | dangling
deriving DecidableEq, Repr

/-- The tokens of a pattern. -/
def tokens : Text → List Token
  | [] => []
  | c :: t =>
    if c = '\\' then
      match t with
      | [] => [.dangling]
      | d :: t => .escaped d :: tokens t
    else .plain c :: tokens t

/-- Something read, and the tokens behind it. -/
abbrev Scanned (α : Type) := α × List Token

/-- The pattern breaks a rule. -/
def malformed {α : Type} : Except RegexError α := .error .malformed

/-- Whether the next token is this code point, standing alone. -/
def next (c : CodePoint) (ts : List Token) : Bool := ts.head? == some (.plain c)

/-- Reads up to `limit` plain code points that satisfy `p`. -/
def plainRun (p : CodePoint → Bool) : (limit : Nat) → List Token → Text × List Token
  | 0, ts => ([], ts)
  | limit + 1, ts =>
    match ts with
    | .plain c :: rest =>
      if p c then
        let (read, rest) := plainRun p limit rest
        (c :: read, rest)
      else ([], ts)
    | ts => ([], ts)

/-- Reads a name up to a closing code point; escapes are no part of names. -/
def name (closing : CodePoint) : List Token → Except RegexError (Scanned Text)
  | [] => malformed
  | .plain c :: rest =>
    if c = closing then .ok ([], rest)
    else (name closing rest).map fun (t, ts) => (c :: t, ts)
  | _ => malformed

/-! ### Escapes -/

/-- The number of digits in a base, each valued by `value?`. -/
def numberOf (base : Nat) (value? : CodePoint → Option Nat) (digits : Text) : Nat :=
  digits.foldl (fun n c => n * base + (value? c).getD 0) 0

/-- An octal digit. -/
def isOctal (c : CodePoint) : Bool := 48 ≤ c.toNat && c.toNat ≤ 55

/-- The code point of a number. -/
def codePoint (n : Nat) : Except RegexError CodePoint :=
  match CodePoint.ofNat? n with
  | some c => .ok c
  | none => malformed

/-- A code point by its number in exactly `width` hexadecimal digits. -/
def hexEscape (width : Nat) (ts : List Token) : Except RegexError (Scanned CodePoint) := do
  let (digits, rest) := plainRun (·.hexValue?.isSome) width ts
  if digits.length < width then malformed
  else return (← codePoint (numberOf 16 CodePoint.hexValue? digits), rest)

/-- What an escape of one letter stands for, inside a set and outside. -/
def controlEscape? (c : CodePoint) : Option CodePoint :=
  if c = 'a' then some (Char.ofNat 7)
  else if c = 'f' then some (Char.ofNat 12)
  else if c = 'n' then some (Char.ofNat 10)
  else if c = 'r' then some (Char.ofNat 13)
  else if c = 't' then some (Char.ofNat 9)
  else if c = 'v' then some (Char.ofNat 11)
  else if c = '\\' then some c
  else none

/-- The kind of code points that an escape stands for, and whether it is negated. -/
def kindEscape? (c : CodePoint) : Option (Kind × Bool) :=
  if c = 'd' then some (.digit, false)
  else if c = 'D' then some (.digit, true)
  else if c = 's' then some (.space, false)
  else if c = 'S' then some (.space, true)
  else if c = 'w' then some (.word, false)
  else if c = 'W' then some (.word, true)
  else none

/-- A character by its name in braces. -/
def namedEscape (ts : List Token) : Except RegexError (Scanned CodePoint) := do
  if !next '\x7b' ts then malformed
  let (t, rest) ← name '\x7d' (ts.drop 1)
  match if t.isEmpty then none else Host.characterNamed? t with
  | some c => return (c, rest)
  | none => malformed

/-- Escapes by number and by name, and code points that may stand behind a backslash for
themselves. -/
def literalEscape (c : CodePoint) (ts : List Token) : Except RegexError (Scanned CodePoint) :=
  match controlEscape? c with
  | some d => .ok (d, ts)
  | none =>
    if c = 'x' then hexEscape 2 ts
    else if c = 'u' then hexEscape 4 ts
    else if c = 'U' then hexEscape 8 ts
    else if c = 'N' then namedEscape ts
    else if c.isAsciiLetter || c.isAsciiDigit then malformed
    else .ok (c, ts)

/-- An octal number that starts with `first`, of at most three digits. -/
def octalEscape (first : CodePoint) (ts : List Token) :
    Except RegexError (Scanned CodePoint) := do
  let (more, rest) := plainRun isOctal 2 ts
  let n := numberOf 8 CodePoint.digitValue? (first :: more)
  if n > 255 then malformed else return (← codePoint n, rest)

/-! ### Sets -/

/-- An escape inside a set; `\b` is a backspace there. -/
def memberEscape (asciiOnly : Bool) (c : CodePoint) (ts : List Token) :
    Except RegexError (Scanned Member) :=
  match kindEscape? c with
  | some (kind, negated) => .ok (.kind kind asciiOnly negated, ts)
  | none =>
    if c = 'b' then .ok (.one (Char.ofNat 8), ts)
    else if isOctal c then (octalEscape c ts).map fun (d, ts) => (.one d, ts)
    else (literalEscape c ts).map fun (d, ts) => (.one d, ts)

/-- One member of a set, without regard to ranges. -/
def member (asciiOnly : Bool) : List Token → Except RegexError (Scanned Member)
  | [] => malformed
  | .dangling :: _ => malformed
  | .plain c :: rest => .ok (.one c, rest)
  | .escaped c :: rest => memberEscape asciiOnly c rest

/-- Reads the members of a set up to its closing bracket, which is a member itself if it comes first;
`read` holds the members so far, last first. -/
def members (asciiOnly : Bool) :
    (fuel : Nat) → List Member → List Token → Except RegexError (Scanned (List Member))
  | 0, _, _ => malformed
  | fuel + 1, read, ts =>
    if next ']' ts ∧ read ≠ [] then .ok (read.reverse, ts.drop 1)
    else do
      let (low, rest) ← member asciiOnly ts
      if next '-' rest then
        let rest := rest.drop 1
        if next ']' rest then
          return ((.one '-' :: low :: read).reverse, rest.drop 1)
        else
          let (high, rest) ← member asciiOnly rest
          match low, high with
          | .one low, .one high =>
            if high < low then malformed
            else members asciiOnly fuel (.range low high :: read) rest
          | _, _ => malformed
      else members asciiOnly fuel (low :: read) rest

/-- A set behind its opening bracket.  A set of one code point is that code point. -/
def charSet (asciiOnly : Bool) (folding : Folding) (ts : List Token) :
    Except RegexError (Scanned CharSet) := do
  let negated := next '^' ts
  let (read, rest) ← members asciiOnly (ts.length + 1) [] (if negated then ts.drop 1 else ts)
  match read.eraseDups with
  | [.one c] => return (.single negated folding c, rest)
  | set => return (⟨negated, set, folding⟩, rest)

/-! ### Repetitions -/

/-- Bounds are below this number. -/
def repetitionLimit : Nat := 4294967295

/-- A bound of a repetition. -/
def bound (digits : Text) : Except RegexError Nat := do
  let n ← (Decimal.read digits).mapError RegexError.numeral
  if n < repetitionLimit then return n else .error .repetitionTooLarge

/-- The bounds behind an opening brace and what stands behind them; without bounds the brace stands
for itself. -/
def bounds (ts : List Token) : Except RegexError (Option ((Nat × Option Nat) × List Token)) := do
  if next '\x7d' ts then return none
  let (low, rest) := plainRun CodePoint.isAsciiDigit ts.length ts
  let comma := next ',' rest
  let (high, rest) :=
    if comma then plainRun CodePoint.isAsciiDigit ts.length (rest.drop 1) else (low, rest)
  if !next '\x7d' rest then return none
  let rest := rest.drop 1
  if rest = [.dangling] then malformed
  let least ← if low.isEmpty then pure 0 else bound low
  if high.isEmpty then return some ((least, none), rest)
  let most ← bound high
  if most < least then malformed
  return some ((least, some most), rest)

/-- How greedy a repetition is, by the mark behind its bounds. -/
def greed (ts : List Token) : Greed × List Token :=
  if next '?' ts then (.lazy, ts.drop 1)
  else if next '+' ts then (.possessive, ts.drop 1)
  else (.greedy, ts)

/-! ### Flags -/

/-- The flags that a pattern can set for itself. -/
inductive Flag
  | ignoreCase
  | multiline
  | dotAll
  | verbose
  | ascii
  | unicode
  | template
deriving DecidableEq, Repr

/-- The flag of a letter. -/
def flag? (c : CodePoint) : Option Flag :=
  if c = 'i' then some .ignoreCase
  else if c = 'm' then some .multiline
  else if c = 's' then some .dotAll
  else if c = 'x' then some .verbose
  else if c = 'a' then some .ascii
  else if c = 'u' then some .unicode
  else if c = 't' then some .template
  else none

/-- Whether a flag chooses the classes of code points. -/
def Flag.isType (f : Flag) : Bool := f == .ascii || f == .unicode

/-- Reads flags that are turned on, up to a closing parenthesis, a hyphen or a colon. -/
def flagsOn (read : List Flag) : List Token → Except RegexError (Scanned (List Flag × CodePoint))
  | .plain c :: rest =>
    if c = ')' ∨ c = '-' ∨ c = ':' then .ok ((read, c), rest)
    else
      match flag? c with
      | none => malformed
      | some f =>
        if f.isType && read.any fun g => g.isType && g != f then malformed
        else flagsOn (f :: read) rest
  | _ => malformed

/-- Reads flags that are turned off, up to a colon. -/
def flagsOff (read : List Flag) : List Token → Except RegexError (Scanned (List Flag))
  | .plain c :: rest =>
    if c = ':' then if read.isEmpty then malformed else .ok (read, rest)
    else
      match flag? c with
      | none => malformed
      | some f => if f.isType then malformed else flagsOff (f :: read) rest
  | _ => malformed

/-- What inline flags ask for. -/
inductive FlagGroup
  /-- Flags for the whole pattern. -/
  | whole (on : List Flag)
  /-- Flags for the group that follows. -/
  | scoped (on off : List Flag)

/-- Reads inline flags. -/
def inlineFlags (ts : List Token) : Except RegexError (Scanned FlagGroup) := do
  let ((on, stop), rest) ← flagsOn [] ts
  if stop = ')' then return (.whole on, rest)
  if on.elem .template then malformed
  if stop = ':' then return (.scoped on [], rest)
  let (off, rest) ← flagsOff [] rest
  if off.elem .template || on.any off.elem then malformed
  return (.scoped on off, rest)

/-! ### Names -/

/-- Reads an identifier up to a closing code point. -/
def identifier (closing : CodePoint) (ts : List Token) : Except RegexError (Scanned Text) := do
  let (t, rest) ← name closing ts
  if t.isIdentifier then return (t, rest) else malformed

/-- The digits of a numeral whose digits may be grouped by single underscores. -/
def ungrouped? : Text → Option Text
  | [] => none
  | [c] => if c.isDigit then some [c] else none
  | c :: d :: rest =>
    if !c.isDigit then none
    else if d = '_' then (ungrouped? rest).map (c :: ·)
    else (ungrouped? (d :: rest)).map (c :: ·)

/-- The number of a group, as a numeral of any script that white space may surround. -/
def groupNumber? (t : Text) : Option Nat := do
  let t := t.trim
  let negative := t.head? == some (CodePoint.ofChar '-')
  let signed := negative || t.head? == some (CodePoint.ofChar '+')
  let digits ← ungrouped? (if signed then t.drop 1 else t)
  let n ← (Decimal.read digits).toOption
  if negative || n = 0 then none else some n

end Regex

end PatchReview
