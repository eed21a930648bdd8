/-
Similar texts.

Two texts are compared block by block: the longest block that both have, the first of
them if there are several, then the blocks to its left and to its right in the same way.
The share of code points in such blocks says how similar the texts are.
-/
import PatchReview.Text.CodePoint

namespace PatchReview

/-- A stretch that two texts have in common. -/
structure CommonBlock where
  /-- Where it starts in the first text. -/
  left : Nat := 0
  /-- Where it starts in the second text. -/
  right : Nat := 0
  size : Nat := 0
deriving DecidableEq, Repr

/-- A text with the share of it that is found in another one. -/
structure Similarity where
  text : Text
  /-- Code points in common blocks. -/
  shared : Nat
  /-- Code points of both texts. -/
  total : Nat
deriving DecidableEq, Repr

namespace Text

/-- How far two texts agree from their beginnings. -/
def commonStart : Text → Text → Nat
  | a :: s, b :: t => if a = b then commonStart s t + 1 else 0
  | _, _ => 0

/-- The longest common block, the first in `s` and then in `t` if there are several. -/
def longestBlock (s t : Text) : CommonBlock :=
  (List.range s.length).foldl
    (fun best i =>
      (List.range t.length).foldl
        (fun best j =>
          let size := commonStart (s.drop i) (t.drop j)
          if best.size < size then { left := i, right := j, size } else best)
        best)
    {}

/-- The number of code points in common blocks, of which there are no more than `fuel`. -/
def sharedWithin : (fuel : Nat) → Text → Text → Nat
  | 0, _, _ => 0
  | fuel + 1, s, t =>
    let block := longestBlock s t
    if block.size = 0 then 0
    else
      sharedWithin fuel (s.take block.left) (t.take block.right) + block.size
        + sharedWithin fuel (s.drop (block.left + block.size)) (t.drop (block.right + block.size))

/-- How similar a text is to a word. -/
def similarity (word t : Text) : Similarity :=
  { text := t, shared := sharedWithin (t.length + 1) t word, total := t.length + word.length }

end Text

namespace Similarity

/-- Texts are close when six tenths of them are shared. -/
def isClose (s : Similarity) : Bool := 6 * s.total ≤ 20 * s.shared

/-- Whether a text is at least as similar as another one; of equally similar ones the later in order
counts more. -/
def atLeast (s t : Similarity) : Bool :=
  if s.shared * t.total = t.shared * s.total then Text.notAfter t.text s.text
  else t.shared * s.total < s.shared * t.total

end Similarity

namespace Text

/-- No more texts are proposed for a word. -/
def proposalLimit : Nat := 3

/-- The candidates closest to a word, the closest first. -/
def closest (word : Text) (candidates : List Text) : List Text :=
  let close := (candidates.map (similarity word)).filter Similarity.isClose
  ((close.mergeSort Similarity.atLeast).take proposalLimit).map Similarity.text

end Text

end PatchReview
