/-
Regular expressions.

A pattern is a tree of nodes.  All flags have been resolved when the tree is built: a
node that matches one code point knows how it treats letter case, and an anchor knows
what an end is to it.  Capture groups are numbered from one.
-/
import PatchReview.Number.Decimal

namespace PatchReview

/-- Why a pattern cannot be compiled. -/
inductive RegexError
  /-- The pattern does not follow the rules of patterns. -/
  | malformed
  /-- A bound of a repetition is beyond what can be counted. -/
  | repetitionTooLarge
  /-- A bound of a repetition has too many digits. -/
  | numeral (error : NumeralError)
  /-- The pattern asks for ASCII classes and for Unicode classes at once. -/
  | flagsIncompatible
  /-- The stack does not suffice for the pattern. -/
  | nestedTooDeep
deriving DecidableEq, Repr

namespace Regex

/-- How letter case is treated. -/
inductive Folding
  /-- Capital and small letters differ. -/
  | exact
  /-- The case of ASCII letters is ignored. -/
  | ascii
  /-- The case of all letters is ignored. -/
  | unicode
deriving DecidableEq, Repr

/-- The kinds of code points that have an escape of their own. -/
inductive Kind
  | digit
  | space
  | word
deriving DecidableEq, Repr

/-- A member of a set of code points. -/
inductive Member
  | one (c : CodePoint)
  | range (low high : CodePoint)
  | kind (kind : Kind) (asciiOnly negated : Bool)
deriving DecidableEq, Repr

/-- A set of code points, or its complement. -/
structure CharSet where
  negated : Bool
  members : List Member
  folding : Folding
deriving DecidableEq, Repr

/-- A place between code points. -/
inductive Anchor
  /-- The start of the text. -/
  | textStart
  /-- The start of the text or of a line in it. -/
  | lineStart
  /-- The end of the text. -/
  | textEnd
  /-- The end of the text, or in front of a line feed that ends it. -/
  | lastLineEnd
  /-- The end of the text or of a line in it. -/
  | lineEnd
  /-- The edge of a word, or any other place. -/
  | wordEdge (asciiOnly negated : Bool)
deriving DecidableEq, Repr

/-- How a repetition chooses its length. -/
inductive Greed
  /-- As many as possible, fewer if need be. -/
  | greedy
  /-- As few as possible, more if need be. -/
  | lazy
  /-- As many as possible, and never fewer. -/
  | possessive
deriving DecidableEq, Repr

/-- A pattern. -/
inductive Node where
  /-- Nothing. -/
  | empty
  /-- One code point of a set. -/
  | char (set : CharSet)
  /-- A place. -/
  | anchor (anchor : Anchor)
  /-- One pattern after another. -/
  | seq (first second : Node)
  /-- One pattern, or else another. -/
  | either (first second : Node)
  /-- A repetition; without `most` it has no upper bound. -/
  | iterate (body : Node) (least : Nat) (most : Option Nat) (greed : Greed)
  /-- A pattern whose match is remembered. -/
  | capture (group : Nat) (body : Node)
  /-- What a group has matched before. -/
  | backref (group : Nat) (folding : Folding)
  /-- A pattern that keeps its first match. -/
  | atomic (body : Node)
  /-- A pattern that must match here, or must not, without being consumed; it starts `back` code
  points before. -/
  | look (back : Nat) (negated : Bool) (body : Node)
  /-- One pattern if a group has matched, and another if not. -/
  | ifMatched (group : Nat) (yes no : Node)
deriving DecidableEq, Repr

end Regex

/-- A compiled pattern. -/
structure Regex where
  /-- How many capture groups it has. -/
  groups : Nat
  /-- The pattern. -/
  node : Regex.Node
deriving DecidableEq, Repr

end PatchReview
