/-
From the text of a pattern to its tree.

The parser keeps account of the groups: which are closed and how wide they are, so that
a group is referred to only after its end, and what is looked back for has one width.
Some rules can only be judged once the whole pattern is known; the parser notes that
one was broken and goes on, because another error may take precedence.
-/
import PatchReview.Regex.Scan

namespace PatchReview

namespace Regex

variable [Host]

/-- What is known of a group. -/
inductive GroupStatus
  /-- Its end has not been read. -/
  | unclosed
  /-- It has ended; its width is known if all its matches have the same. -/
  | closed (width : Option Nat)
deriving DecidableEq, Repr

/-- The account that the parser keeps. -/
structure Account where
  /-- The groups in order of their opening. -/
  groups : List GroupStatus := []
  /-- The groups that have names. -/
  names : List (Text × Nat) := []
  /-- How many groups were opened before the outermost look back that is being read. -/
  lookBack : Option Nat := none
  /-- The highest group that a condition asks for by number. -/
  highestCondition : Nat := 0
  /-- The flags of the whole pattern. -/
  flags : List Flag := []
  /-- Whether anything is repeated. -/
  repeats : Bool := false
  /-- Whether something of no fixed width is looked back for. -/
  looseLookBack : Bool := false

/-- The flags in force at a place. -/
structure Scope where
  ignoreCase : Bool
  multiline : Bool
  dotAll : Bool
  verbose : Bool
  asciiOnly : Bool
  /-- Whether the place is in no group. -/
  outermost : Bool

namespace Scope

/-- The flags of the whole pattern; lines are always told apart. -/
def ofFlags (flags : List Flag) : Scope :=
  { ignoreCase := flags.elem .ignoreCase, multiline := true, dotAll := flags.elem .dotAll
    verbose := flags.elem .verbose, asciiOnly := flags.elem .ascii, outermost := true }

/-- Inside a group. -/
def inner (scope : Scope) : Scope := { scope with outermost := false }

/-- Inside a group that turns flags on and off. -/
def turned (scope : Scope) (on off : List Flag) : Scope :=
  let set (flag : Flag) (old : Bool) : Bool := (old || on.elem flag) && !off.elem flag
  { ignoreCase := set .ignoreCase scope.ignoreCase
    multiline := set .multiline scope.multiline
    dotAll := set .dotAll scope.dotAll
    verbose := set .verbose scope.verbose
    asciiOnly :=
      if on.elem .ascii then true else if on.elem .unicode then false else scope.asciiOnly
    outermost := false }

/-- How letter case is treated at a place. -/
def folding (scope : Scope) : Folding :=
  if !scope.ignoreCase then .exact else if scope.asciiOnly then .ascii else .unicode

end Scope

namespace Account

/-- What is known of a group, if it was opened. -/
def status? (a : Account) (group : Nat) : Option GroupStatus :=
  if group = 0 then none else a.groups[group - 1]?

/-- Opens a group; its name must be new. -/
def opened (a : Account) (name : Option Text) : Except RegexError (Nat × Account) :=
  let group := a.groups.length + 1
  let a := { a with groups := a.groups ++ [.unclosed] }
  match name with
  | none => .ok (group, a)
  | some name =>
    if a.names.any (·.1 == name) then malformed
    else .ok (group, { a with names := (name, group) :: a.names })

/-- Closes a group. -/
def closed (a : Account) (group : Nat) (width : Option Nat) : Account :=
  { a with groups := a.groups.set (group - 1) (.closed width) }

/-- The group of a name. -/
def named? (a : Account) (name : Text) : Option Nat := (a.names.find? (·.1 == name)).map Prod.snd

/-- While looking back, only groups that ended before may be asked for. -/
def mayLookBack (a : Account) (group : Nat) : Bool :=
  match a.lookBack, a.status? group with
  | none, _ => true
  | some count, some (.closed _) => group ≤ count
  | some _, _ => false

/-- Notes that something is looked back for. -/
def lookedBack (a : Account) (width : Option Nat) : Account :=
  match width with
  | some n => if n < 4294967296 then a else { a with looseLookBack := true }
  | none => { a with looseLookBack := true }

end Account

/-- What a quantifier may not follow. -/
inductive ItemKind
  | place
  | repetition
  | other
deriving DecidableEq

/-- A part of a sequence. -/
structure Item where
  node : Node
  /-- Its width, if all its matches have the same. -/
  width : Option Nat
  kind : ItemKind := .other

/-- The sum of two widths. -/
def addWidths (a b : Option Nat) : Option Nat := do return (← a) + (← b)

/-- The items of a sequence, given last first, as one item. -/
def sequenceOf (items : List Item) : Item :=
  items.foldl
    (fun behind item =>
      { node := match behind.node with | .empty => item.node | node => .seq item.node node
        width := addWidths item.width behind.width })
    { node := .empty, width := some 0 }

/-- The width of a repetition: a fixed one needs a fixed body and count, unless nothing is repeated. -/
def repeatedWidth (width : Option Nat) (least : Nat) (most : Option Nat) : Option Nat :=
  if most = some 0 ∨ width = some 0 then some 0
  else if most = some least then width.map (· * least)
  else none

/-- An item of one code point. -/
def oneOf (set : CharSet) : Item := { node := .char set, width := some 1 }

/-- An item for a code point that stands for itself. -/
def literal (scope : Scope) (c : CodePoint) : Item := oneOf (.single false scope.folding c)

/-- An item that is a place. -/
def place (anchor : Anchor) : Item := { node := .anchor anchor, width := some 0, kind := .place }

/-- What a group has matched before. -/
def reference (scope : Scope) (a : Account) (group : Nat) : Except RegexError Item :=
  match a.status? group with
  | some (.closed width) =>
    if a.mayLookBack group then .ok { node := .backref group scope.folding, width } else malformed
  | _ => malformed

/-- A digit behind a backslash: an octal number of three digits, or a group. -/
def numbered (scope : Scope) (a : Account) (first : CodePoint) (ts : List Token) :
    Except RegexError (Scanned Item) := do
  let (second, rest) := plainRun CodePoint.isAsciiDigit 1 ts
  let (third, after) := plainRun isOctal 1 rest
  let digits := first :: second
  if digits.all isOctal && second.length == 1 && third.length == 1 then
    let n := numberOf 8 CodePoint.digitValue? (digits ++ third)
    if n > 255 then malformed else return (literal scope (← codePoint n), after)
  else
    return (← reference scope a (numberOf 10 CodePoint.digitValue? digits), rest)

/-- An escape outside sets. -/
def escape (scope : Scope) (a : Account) (c : CodePoint) (ts : List Token) :
    Except RegexError (Scanned Item) :=
  if c = 'A' then .ok (place .textStart, ts)
  else if c = 'Z' then .ok (place .textEnd, ts)
  else if c = 'b' then .ok (place (.wordEdge scope.asciiOnly false), ts)
  else if c = 'B' then .ok (place (.wordEdge scope.asciiOnly true), ts)
  else
    match kindEscape? c with
    | some (kind, negated) =>
      .ok (oneOf ⟨false, [.kind kind scope.asciiOnly negated], .exact⟩, ts)
    | none =>
      if c = '0' then (octalEscape c ts).map fun (d, ts) => (literal scope d, ts)
      else if c.isAsciiDigit then numbered scope a c ts
      else (literalEscape c ts).map fun (d, ts) => (literal scope d, ts)

/-- Repeats the last item of a sequence. -/
def repeatLast (items : List Item) (least : Nat) (most : Option Nat) (ts : List Token) :
    Except RegexError (Scanned (List Item)) :=
  match items with
  | [] => malformed
  | item :: before =>
    if item.kind ≠ .other then malformed
    else
      let (mode, rest) := greed ts
      .ok ({ node := .iterate item.node least most mode,
             width := repeatedWidth item.width least most, kind := .repetition } :: before, rest)

/-- The bounds of a quantifier that is one code point. -/
def quantifier? (c : CodePoint) : Option (Nat × Option Nat) :=
  if c = '*' then some (0, none)
  else if c = '+' then some (1, none)
  else if c = '?' then some (0, some 1)
  else none

/-- White space that a verbose pattern passes over. -/
def isLayout (c : CodePoint) : Bool := c.isAsciiBlank

/-- What is left behind a comment that runs to the end of its line. -/
def skipLine : List Token → List Token
  | [] => []
  | t :: ts => if t = .plain CodePoint.lineFeed then ts else skipLine ts

/-- What is left behind a comment in parentheses. -/
def skipComment : List Token → Except RegexError (List Token)
  | [] => malformed
  | .dangling :: _ => malformed
  | t :: ts => if t = .plain ')' then .ok ts else skipComment ts

/-- What a group is, by what stands behind its opening parenthesis. -/
inductive Opening
  /-- A group that is remembered, perhaps by a name. -/
  | capture (name : Option Text)
  /-- A group with flags of its own. -/
  | plain (on off : List Flag)
  | atomic
  | look (back negated : Bool)
  /-- What a named group has matched. -/
  | reference (name : Text)
  /-- A condition. -/
  | condition (group : Text)
  /-- Flags for the whole pattern. -/
  | flags (on : List Flag)
  | comment

/-- Reads what stands behind an opening parenthesis. -/
def opening (ts : List Token) : Except RegexError (Scanned Opening) :=
  if !next '?' ts then .ok (.capture none, ts)
  else
    match ts.drop 1 with
    | .plain c :: rest =>
      if c = 'P' then
        if next '<' rest then
          (identifier '>' (rest.drop 1)).map fun (t, ts) => (.capture (some t), ts)
        else if next '=' rest then
          (identifier ')' (rest.drop 1)).map fun (t, ts) => (.reference t, ts)
        else malformed
      else if c = ':' then .ok (.plain [] [], rest)
      else if c = '#' then .ok (.comment, rest)
      else if c = '=' then .ok (.look false false, rest)
      else if c = '!' then .ok (.look false true, rest)
      else if c = '<' then
        if next '=' rest then .ok (.look true false, rest.drop 1)
        else if next '!' rest then .ok (.look true true, rest.drop 1)
        else malformed
      else if c = '(' then (name ')' rest).map fun (t, ts) => (.condition t, ts)
      else if c = '>' then .ok (.atomic, rest)
      else if c = '-' ∨ (flag? c).isSome then
        (inlineFlags (.plain c :: rest)).map fun (group, ts) =>
          match group with
          | .whole on => (.flags on, ts)
          | .scoped on off => (.plain on off, ts)
      else malformed
    | _ => malformed

/-- The group that a condition asks for. -/
def conditionGroup (a : Account) (t : Text) : Except RegexError (Nat × Account) := do
  let (group, a) ←
    if t.isIdentifier then
      match a.named? t with
      | some group => pure (group, a)
      | none => malformed
    else
      match groupNumber? t with
      | some group =>
        pure (group, { a with highestCondition := max group a.highestCondition })
      | none => malformed
  if a.mayLookBack group then return (group, a) else malformed

/-- A closing parenthesis. -/
def close (ts : List Token) : Except RegexError (List Token) :=
  if next ')' ts then .ok (ts.drop 1) else malformed

mutual

/-- Reads alternatives up to the end of their group; `first` says that nothing stands before them. -/
def alternatives : (fuel : Nat) → Scope → (first : Bool) → Account → List Token →
    Except RegexError (Item × Account × List Token)
  | 0, _, _, _, _ => malformed
  | fuel + 1, scope, first, a, ts => do
    let (items, a, ts) ← sequence fuel scope first [] a ts
    let here := sequenceOf items
    if next '|' ts then
      let scope := if scope.outermost then Scope.ofFlags a.flags else scope
      let (others, a, ts) ← alternatives fuel scope false a (ts.drop 1)
      let width := if here.width = others.width then here.width else none
      return ({ node := .either here.node others.node, width }, a, ts)
    else return (here, a, ts)

/-- Reads a sequence; `items` holds what was read so far, last first. -/
def sequence : (fuel : Nat) → Scope → (first : Bool) → List Item → Account → List Token →
    Except RegexError (List Item × Account × List Token)
  | 0, _, _, _, _, _ => malformed
  | fuel + 1, scope, first, items, a, ts =>
    match ts with
    | [] => .ok (items, a, ts)
    | .dangling :: _ => malformed
    | .escaped c :: rest => do
      let (item, rest) ← escape scope a c rest
      sequence fuel scope first (item :: items) a rest
    | .plain c :: rest =>
      if c = '|' ∨ c = ')' then .ok (items, a, ts)
      else if scope.verbose ∧ isLayout c then sequence fuel scope first items a rest
      else if scope.verbose ∧ c = '#' then sequence fuel scope first items a (skipLine rest)
      else if c = '[' then do
        let (set, rest) ← charSet scope.asciiOnly scope.folding rest
        sequence fuel scope first (oneOf set :: items) a rest
      else if c = '.' then
        let set := if scope.dotAll then CharSet.all else CharSet.onLine
        sequence fuel scope first (oneOf set :: items) a rest
      else if c = '^' then
        let anchor := if scope.multiline then Anchor.lineStart else .textStart
        sequence fuel scope first (place anchor :: items) a rest
      else if c = '$' then
        let anchor := if scope.multiline then Anchor.lineEnd else .lastLineEnd
        sequence fuel scope first (place anchor :: items) a rest
      else if c = '(' then do
        let (kind, rest) ← opening rest
        match kind with
        | .comment => do
          let rest ← skipComment rest
          sequence fuel scope first items a rest
        | .flags on =>
          if first ∧ items.isEmpty then
            let flags := a.flags ++ on
            sequence fuel (Scope.ofFlags flags) first items { a with flags } rest
          else malformed
        | kind => do
          let (item, a, rest) ← group fuel scope a kind rest
          sequence fuel scope first (item :: items) a rest
      else
        match quantifier? c with
        | some (least, most) => do
          let (items, rest) ← repeatLast items least most rest
          sequence fuel scope first items { a with repeats := true } rest
        | none =>
          if c = '\x7b' then do
            match ← bounds rest with
            | none => sequence fuel scope first (literal scope c :: items) a rest
            | some ((least, most), rest) => do
              let (items, rest) ← repeatLast items least most rest
              sequence fuel scope first items { a with repeats := true } rest
          else sequence fuel scope first (literal scope c :: items) a rest

/-- Reads a group behind what opens it. -/
def group : (fuel : Nat) → Scope → Account → Opening → List Token →
    Except RegexError (Item × Account × List Token)
  | 0, _, _, _, _ => malformed
  | fuel + 1, scope, a, kind, ts =>
    match kind with
    | .comment | .flags _ => malformed
    | .reference name =>
      match a.named? name with
      | none => malformed
      | some group => do return (← reference scope a group, a, ts)
    | .capture name => do
      let (group, a) ← a.opened name
      let (body, a, ts) ← alternatives fuel scope.inner false a ts
      let ts ← close ts
      return ({ node := .capture group body.node, width := body.width },
        a.closed group body.width, ts)
    | .plain on off => do
      let (body, a, ts) ← alternatives fuel (scope.turned on off) false a ts
      return ({ node := body.node, width := body.width }, a, ← close ts)
    | .atomic => do
      let (body, a, ts) ← alternatives fuel scope.inner false a ts
      return ({ node := .atomic body.node, width := body.width }, a, ← close ts)
    | .look back negated => do
      let outer := a.lookBack
      let a :=
        if back ∧ outer.isNone then { a with lookBack := some a.groups.length } else a
      let (body, a, ts) ← alternatives fuel scope.inner false a ts
      let a := if back then { a.lookedBack body.width with lookBack := outer } else a
      let distance := if back then body.width.getD 0 else 0
      return ({ node := .look distance negated body.node, width := some 0 }, a, ← close ts)
    | .condition name => do
      let (group, a) ← conditionGroup a name
      let (yes, a, ts) ← sequence fuel scope.inner false [] a ts
      let yes := sequenceOf yes
      let (no, a, ts) ←
        if next '|' ts then do
          let (no, a, ts) ← sequence fuel scope.inner false [] a (ts.drop 1)
          if next '|' ts then malformed else pure (sequenceOf no, a, ts)
        else pure ({ node := .empty, width := some 0 }, a, ts)
      let width := if yes.width = no.width then yes.width else none
      return ({ node := .ifMatched group yes.node no.node, width }, a, ← close ts)

end

/-- Whether a pattern breaks a rule that concerns it as a whole. -/
def Account.isBroken (a : Account) : Bool :=
  a.looseLookBack || a.groups.length < a.highestCondition
    || (a.flags.elem .template && a.repeats)

end Regex

namespace Regex

variable [Host]

/-- The tree of a pattern. -/
def compile (pattern : Text) : Except RegexError Regex := do
  if !Host.bears pattern then throw .nestedTooDeep
  let ts := tokens pattern
  let (item, a, rest) ← alternatives (3 * ts.length + 3) (Scope.ofFlags []) true {} ts
  if a.flags.elem .ascii && a.flags.elem .unicode then .error .flagsIncompatible
  else if !rest.isEmpty || a.isBroken then malformed
  else return { groups := a.groups.length, node := item.node }

end Regex

end PatchReview
