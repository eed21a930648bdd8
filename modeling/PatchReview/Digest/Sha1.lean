/-
The SHA-1 digest.

A message is padded to whole blocks of sixteen words and each block is mixed into five
chaining words in eighty rounds.  The digest is written as forty small hexadecimal
digits, eight for each chaining word.
-/
import PatchReview.Text.Hex

namespace PatchReview

namespace Sha1

/-- The five chaining words. -/
structure State where
  a : UInt32
  b : UInt32
  c : UInt32
  d : UInt32
  e : UInt32
deriving DecidableEq, Repr

/-- The chaining words before the first block. -/
def initial : State := ⟨0x67452301, 0xEFCDAB89, 0x98BADCFE, 0x10325476, 0xC3D2E1F0⟩

/-- Rotates a word to the left. -/
def rotate (w bits : UInt32) : UInt32 := (w <<< bits) ||| (w >>> (32 - bits))

/-- What a round mixes of three chaining words, and its constant. -/
def mixing (round : Nat) (b c d : UInt32) : UInt32 × UInt32 :=
  if round < 20 then ((b &&& c) ||| (~~~b &&& d), 0x5A827999)
  else if round < 40 then (b ^^^ c ^^^ d, 0x6ED9EBA1)
  else if round < 60 then ((b &&& c) ||| (b &&& d) ||| (c &&& d), 0x8F1BBCDC)
  else (b ^^^ c ^^^ d, 0xCA62C1D6)

/-- One round with its word of the schedule. -/
def step (s : State) (round : Nat) (word : UInt32) : State :=
  let (mixed, constant) := mixing round s.b s.c s.d
  ⟨rotate s.a 5 + mixed + s.e + constant + word, s.a, rotate s.b 30, s.c, s.d⟩

/-- Rounds in order, each with its word. -/
def rounds (s : State) (round : Nat) : List UInt32 → State
  | [] => s
  | word :: rest => rounds (step s round word) (round + 1) rest

/-- The next word of a schedule whose words are given last first. -/
def nextWord (words : List UInt32) : UInt32 :=
  let back (i : Nat) : UInt32 := words.getD i 0
  rotate (back 2 ^^^ back 7 ^^^ back 13 ^^^ back 15) 1

/-- Adds words to a schedule given last first. -/
def extend (words : List UInt32) : (count : Nat) → List UInt32
  | 0 => words
  | count + 1 => extend (nextWord words :: words) count

/-- The eighty words that a block contributes. -/
def schedule (block : List UInt32) : List UInt32 := (extend block.reverse 64).reverse

/-- Mixes a block into the chaining words. -/
def compress (s : State) (block : List UInt32) : State :=
  let t := rounds s 0 (schedule block)
  ⟨s.a + t.a, s.b + t.b, s.c + t.c, s.d + t.d, s.e + t.e⟩

/-- The low bytes of a number, the highest of them first. -/
def bigEndian (n : Nat) : (count : Nat) → List UInt8
  | 0 => []
  | count + 1 => bigEndian (n / 256) count ++ [UInt8.ofNat n]

/-- A message with its padding: a single bit, zeros, and the length in bits. -/
def padded (message : List UInt8) : List UInt8 :=
  let zeros := (119 - message.length % 64) % 64
  message ++ [0x80] ++ List.replicate zeros 0 ++ bigEndian (8 * message.length) 8

/-- Bytes in words of four. -/
def words : List UInt8 → List UInt32
  | a :: b :: c :: d :: rest =>
    ((a.toUInt32 <<< 24) ||| (b.toUInt32 <<< 16) ||| (c.toUInt32 <<< 8) ||| d.toUInt32)
      :: words rest
  | _ => []

/-- Mixes in blocks of sixteen words. -/
def absorb (s : State) : (blocks : Nat) → List UInt32 → State
  | 0, _ => s
  | blocks + 1, ws => absorb (compress s (ws.take 16)) blocks (ws.drop 16)

/-- The chaining words after a whole message. -/
def digest (message : List UInt8) : State :=
  let ws := words (padded message)
  absorb initial (ws.length / 16) ws

/-- The digits of the chaining words. -/
def State.hex (s : State) : Text :=
  [s.a, s.b, s.c, s.d, s.e].flatMap fun w => Text.hexDigits w.toNat 8

/-- The digest of a message in hexadecimal digits. -/
def hex (message : List UInt8) : Text := (digest message).hex

end Sha1

end PatchReview
