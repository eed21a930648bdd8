/-
Matching patterns.

A pattern is matched from left to right.  Every node gets the state before it and a
function that matches what stands behind it; a node that can match in several ways
tries them in order until the function succeeds.  The marks that capture groups leave
are part of the state, so a way that fails leaves no trace.

A repetition ends by itself: beyond its least count an iteration may be empty once, and
the next one is not tried at the same place.
-/
import PatchReview.Regex.Class

namespace PatchReview

namespace Regex

/-- How far a match has come. -/
structure Progress where
  /-- The position in the text. -/
  position : Nat
  /-- Where each group was last opened. -/
  starts : List (Option Nat)
  /-- Where each group was last closed. -/
  ends : List (Option Nat)

namespace Progress

/-- Remembers where a group opens. -/
def opened (p : Progress) (group : Nat) : Progress :=
  { p with starts := p.starts.set (group - 1) (some p.position) }

/-- Remembers where a group closes. -/
def closed (p : Progress) (group : Nat) : Progress :=
  { p with ends := p.ends.set (group - 1) (some p.position) }

/-- The place of what a group has matched. -/
def group? (p : Progress) (group : Nat) : Option (Nat × Nat) :=
  match (p.starts[group - 1]?).join, (p.ends[group - 1]?).join with
  | some s, some e => if s ≤ e then some (s, e) else none
  | _, _ => none

end Progress

/-- What stands behind a node. -/
abbrev Next := Progress → Option Progress

/-- A node with everything behind it left open. -/
abbrev Matcher := Progress → Next → Option Progress

/-- The code points of a text by position. -/
abbrev Subject := Array CodePoint

namespace Subject

/-- Whether the code point before or after a place is a word code point. -/
def wordAt (s : Subject) (asciiOnly : Bool) (i : Nat) : Bool :=
  match s[i]? with
  | some c => Kind.word.holds asciiOnly c
  | none => false

/-- Whether a place in a text is an anchor's.  An empty text has no edges and no other places. -/
def isAt (s : Subject) (i : Nat) : Anchor → Bool
  | .textStart => i == 0
  | .lineStart => i == 0 || s[i - 1]? == some CodePoint.lineFeed
  | .textEnd => i == s.size
  | .lastLineEnd => i == s.size || (i + 1 == s.size && s[i]? == some CodePoint.lineFeed)
  | .lineEnd => i == s.size || s[i]? == some CodePoint.lineFeed
  | .wordEdge asciiOnly negated =>
    let before := i != 0 && s.wordAt asciiOnly (i - 1)
    let after := s.wordAt asciiOnly i
    s.size != 0 && (before != after) != negated

/-- Whether the code point at a place is of a set. -/
def holdsAt (s : Subject) (set : CharSet) (i : Nat) : Bool :=
  match s[i]? with
  | some c => set.holds c
  | none => false

/-- How many code points from a place on are of a set, counted up to a bound. -/
def runLength (s : Subject) (set : CharSet) (i : Nat) : (bound : Nat) → Nat
  | 0 => 0
  | bound + 1 => if s.holdsAt set i then runLength s set (i + 1) bound + 1 else 0

/-- Whether `length` code points from `i` and from `j` on are the same. -/
def sameRun (s : Subject) (folding : Folding) (i j : Nat) : (length : Nat) → Bool
  | 0 => true
  | length + 1 =>
    match s[i]?, s[j]? with
    | some c, some d => folding.fold c == folding.fold d && sameRun s folding (i + 1) (j + 1) length
    | _, _ => false

end Subject

/-! ### Repetitions -/

/-- Whether one more iteration is within an upper bound. -/
def mayGoOn (count : Nat) : Option Nat → Bool
  | none => true
  | some most => count < most

/-- Tries a run of single code points from its greatest length down to its least. -/
def shrinking (p : Progress) (next : Next) (least : Nat) : (length : Nat) → Option Progress
  | 0 => if least = 0 then next p else none
  | length + 1 =>
    if length + 1 < least then none
    else
      match next { p with position := p.position + (length + 1) } with
      | some q => some q
      | none => shrinking p next least length

/-- Tries a run of single code points from its least length up; `more` lengths are left. -/
def growing (p : Progress) (next : Next) (length : Nat) : (more : Nat) → Option Progress
  | 0 => next { p with position := p.position + length }
  | more + 1 =>
    match next { p with position := p.position + length } with
    | some q => some q
    | none => growing p next (length + 1) more

/-- A repetition of single code points of a set. -/
def runs (s : Subject) (set : CharSet) (least : Nat) (most : Option Nat) (greed : Greed) :
    Matcher := fun p next =>
  let left := s.size - p.position
  let length := s.runLength set p.position (match most with | none => left | some m => min m left)
  if length < least then none
  else
    match greed with
    | .greedy => shrinking p next least length
    | .lazy => growing p next least (length - least)
    | .possessive => next { p with position := p.position + length }

/-- A greedy repetition of `body`; `last` is where the iteration before this one began, once the
least count was reached. -/
def greedily (body : Matcher) (least : Nat) (most : Option Nat) (next : Next) :
    (fuel count : Nat) → (last : Option Nat) → Next
  | 0, _, _, _ => none
  | fuel + 1, count, last, p =>
    if count < least then body p (greedily body least most next fuel (count + 1) last)
    else
      let longer :=
        if mayGoOn count most && last != some p.position then
          body p (greedily body least most next fuel (count + 1) (some p.position))
        else none
      match longer with
      | some q => some q
      | none => next p

/-- A lazy repetition of `body`. -/
def lazily (body : Matcher) (least : Nat) (most : Option Nat) (next : Next) :
    (fuel count : Nat) → (last : Option Nat) → Next
  | 0, _, _, _ => none
  | fuel + 1, count, last, p =>
    if count < least then body p (lazily body least most next fuel (count + 1) last)
    else
      match next p with
      | some q => some q
      | none =>
        if mayGoOn count most && last != some p.position then
          body p (lazily body least most next fuel (count + 1) (some p.position))
        else none

/-- A possessive repetition of `body`: each iteration keeps its first match. -/
def possessively (body : Matcher) (least : Nat) (most : Option Nat) :
    (fuel count : Nat) → (last : Option Nat) → Next
  | 0, _, _, _ => none
  | fuel + 1, count, last, p =>
    if count < least then
      match body p some with
      | some q => possessively body least most fuel (count + 1) last q
      | none => none
    else if mayGoOn count most && last != some p.position then
      match body p some with
      | some q => possessively body least most fuel (count + 1) (some p.position) q
      | none => some p
    else some p

/-- A repetition of `body`.  Past the least count every iteration but one moves forward, which bounds
their number. -/
def repeated (s : Subject) (body : Matcher) (least : Nat) (most : Option Nat) (greed : Greed) :
    Matcher := fun p next =>
  let fuel := least + (s.size - p.position) + 3
  match greed with
  | .greedy => greedily body least most next fuel 0 none p
  | .lazy => lazily body least most next fuel 0 none p
  | .possessive => (possessively body least most fuel 0 none p).bind next

/-! ### Nodes -/

/-- Matches a node and then what stands behind it. -/
def Node.run (s : Subject) : Node → Matcher
  | .empty => fun p next => next p
  | .char set => fun p next =>
    if s.holdsAt set p.position then next { p with position := p.position + 1 } else none
  | .anchor a => fun p next => if s.isAt p.position a then next p else none
  | .seq first second => fun p next => first.run s p fun q => second.run s q next
  | .either first second => fun p next =>
    match first.run s p next with
    | some q => some q
    | none => second.run s p next
  | .iterate (.char set) least most greed => runs s set least most greed
  | .iterate body least most greed => repeated s (body.run s) least most greed
  | .capture group body => fun p next =>
    body.run s (p.opened group) fun q => next (q.closed group)
  | .backref group folding => fun p next =>
    match p.group? group with
    | none => none
    | some (start, stop) =>
      if s.sameRun folding start p.position (stop - start) then
        next { p with position := p.position + (stop - start) }
      else none
  | .atomic body => fun p next => (body.run s p some).bind next
  | .look back negated body => fun p next =>
    let found :=
      if p.position < back then none
      else body.run s { p with position := p.position - back } some
    match found, negated with
    | some q, false => next { q with position := p.position }
    | none, true => next p
    | _, _ => none
  | .ifMatched group yes no => fun p next =>
    match p.group? group with
    | some _ => yes.run s p next
    | none => no.run s p next

end Regex

namespace Regex

/-- Tries a pattern at a place and at the `more` places after it. -/
def searchFrom (regex : Regex) (s : Subject) (position : Nat) : (more : Nat) → Bool
  | 0 => (regex.node.run s (fresh position) some).isSome
  | more + 1 =>
    (regex.node.run s (fresh position) some).isSome || searchFrom regex s (position + 1) more
where
  /-- At a place, before any group has matched. -/
  fresh (position : Nat) : Progress :=
    { position, starts := List.replicate regex.groups none,
      ends := List.replicate regex.groups none }

/-- Whether a pattern matches somewhere in a text. -/
def occursIn (regex : Regex) (t : Text) : Bool :=
  let s : Subject := t.toArray
  searchFrom regex s 0 s.size

end Regex

end PatchReview
