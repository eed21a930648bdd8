/-
UTF-8, generalized to lone surrogates.

`encode` writes every code point, a lone surrogate in the three bytes that its number
would have.  `decode?` reads well-formed UTF-8 only, in which no surrogate occurs, and
reports the first ill-formed sequence.  `decodeLossy` puts the replacement character
in place of each ill-formed sequence.  A sequence is ill formed from its first byte up
to the byte that no well-formed sequence could have there: what follows is read anew.
-/
import PatchReview.Text.CodePoint

namespace PatchReview

namespace Utf8

/-! ### Writing -/

/-- The bytes of one code point. -/
def encodeOne (c : CodePoint) : List UInt8 :=
  let n := c.toNat
  let tail (unit : Nat) : UInt8 := UInt8.ofNat (0x80 + n / unit % 64)
  if n < 0x80 then [UInt8.ofNat n]
  else if n < 0x800 then [UInt8.ofNat (0xC0 + n / 64), tail 1]
  else if n < 0x10000 then [UInt8.ofNat (0xE0 + n / 4096), tail 64, tail 1]
  else [UInt8.ofNat (0xF0 + n / 262144), tail 4096, tail 64, tail 1]

/-- The bytes of a text. -/
def encode (t : Text) : List UInt8 := t.flatMap encodeOne

/-! ### Reading -/

/-- What is wrong with an ill-formed sequence. -/
inductive Flaw
  /-- Its first byte starts no sequence. -/
  | invalidStart
  /-- A later byte cannot stand where it does. -/
  | invalidContinuation
  /-- The bytes end within it. -/
  | unexpectedEnd
deriving DecidableEq, Repr

/-- What stands at the start of some bytes. -/
inductive Piece
  /-- A code point, whose further bytes are counted. -/
  | codePoint (c : CodePoint) (further : Nat)
  /-- An ill-formed sequence, whose further bytes are counted. -/
  | illFormed (flaw : Flaw) (further : Nat)

/-- How many further bytes the piece takes. -/
def Piece.further : Piece → Nat
  | codePoint _ n => n
  | illFormed _ n => n

/-- The lowest and highest second byte after a first byte: overlong forms, surrogates and
numbers beyond Unicode are excluded here. -/
def secondBounds (first : UInt8) : UInt8 × UInt8 :=
  if first = 0xE0 then (0xA0, 0xBF)
  else if first = 0xED then (0x80, 0x9F)
  else if first = 0xF0 then (0x90, 0xBF)
  else if first = 0xF4 then (0x80, 0x8F)
  else (0x80, 0xBF)

/-- How many further bytes a first byte asks for, if it starts a sequence at all. -/
def expected? (first : UInt8) : Option Nat :=
  if first < 0x80 then some 0
  else if first < 0xC2 then none
  else if first < 0xE0 then some 1
  else if first < 0xF0 then some 2
  else if first < 0xF5 then some 3
  else none

/-- Reads the continuation bytes that are still `missing`; `value` is what was read before and
`taken` counts the continuation bytes that it holds. -/
def continuation (bounds : UInt8 × UInt8) (value taken : Nat) : Nat → List UInt8 → Piece
  | 0, _ =>
    match CodePoint.ofNat? value with
    | some c => .codePoint c taken
    | none => .illFormed .invalidStart 0
  | _ + 1, [] => .illFormed .unexpectedEnd taken
  | missing + 1, b :: rest =>
    if bounds.1 ≤ b ∧ b ≤ bounds.2 then
      continuation (0x80, 0xBF) (value * 64 + b.toNat % 64) (taken + 1) missing rest
    else .illFormed .invalidContinuation taken

/-- The piece that starts with `first`, before `rest`. -/
def piece (first : UInt8) (rest : List UInt8) : Piece :=
  match expected? first with
  | none => .illFormed .invalidStart 0
  | some 0 => continuation (secondBounds first) first.toNat 0 0 rest
  | some n => continuation (secondBounds first) (first.toNat % Nat.pow 2 (6 - n)) 0 n rest

/-- The first ill-formed sequence of some bytes: its flaw, its first byte, where it starts and
how many bytes it has. -/
structure DecodeError where
  flaw : Flaw
  byte : UInt8
  position : Nat
  length : Nat
deriving DecidableEq, Repr

/-- Reads on at `position`. -/
def decodeFrom (position : Nat) : List UInt8 → Except DecodeError Text
  | [] => .ok []
  | b :: rest =>
    match piece b rest with
    | .codePoint c n => do
      let t ← decodeFrom (position + 1 + n) (rest.drop n)
      return c :: t
    | .illFormed flaw n => .error ⟨flaw, b, position, n + 1⟩
termination_by bytes => bytes.length
decreasing_by simp only [List.length_drop, List.length_cons]; omega

/-- The text of well-formed bytes. -/
def decode (bytes : List UInt8) : Except DecodeError Text := decodeFrom 0 bytes

/-- The replacement character. -/
def replacement : CodePoint := '\uFFFD'

/-- The text of any bytes, each ill-formed sequence read as the replacement character. -/
def decodeLossy : List UInt8 → Text
  | [] => []
  | b :: rest =>
    match piece b rest with
    | .codePoint c n => c :: decodeLossy (rest.drop n)
    | .illFormed _ n => replacement :: decodeLossy (rest.drop n)
termination_by bytes => bytes.length
decreasing_by all_goals (simp only [List.length_drop, List.length_cons]; omega)

end Utf8

end PatchReview
