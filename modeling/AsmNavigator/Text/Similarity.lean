/-!
# Similar texts

How much two texts have in common is counted along their longest common stretch, and then
in the same way to its left and to its right. Texts are close if what they share makes up
at least three fifths of both.
-/

namespace AsmNavigator.Text

def commonStart : List Char → List Char → Nat
  | a :: as, b :: bs => if a = b then commonStart as bs + 1 else 0
  | _, _ => 0

/-- A stretch that two texts have in common, with its place in each of them. -/
structure Stretch where
  left : Nat
  right : Nat
  length : Nat
  deriving DecidableEq, Repr

/-- The longest common stretch; of several the one that begins first on the left, then on
the right. -/
def longestStretch (as bs : List Char) : Stretch :=
  (List.range as.length).foldl (fun best i =>
    (List.range bs.length).foldl (fun best j =>
      let length := commonStart (as.drop i) (bs.drop j)
      if best.length < length then ⟨i, j, length⟩ else best) best) ⟨0, 0, 0⟩

/-- The number of characters that two texts share, found in so many rounds. -/
def sharedWithin : Nat → List Char → List Char → Nat
  | 0, _, _ => 0
  | rounds + 1, as, bs =>
      let s := longestStretch as bs
      if s.length = 0 then 0
      else
        sharedWithin rounds (as.take s.left) (bs.take s.right) + s.length +
          sharedWithin rounds (as.drop (s.left + s.length)) (bs.drop (s.right + s.length))

/-- The number of characters that two texts share. Every round takes a character off the left
text, so that its length bounds their number. -/
def shared (a b : String) : Nat := sharedWithin a.length a.toList b.toList

def isClose (a b : String) : Bool := 3 * (a.length + b.length) ≤ 10 * shared a b

/-- Whether `a` is at least as close to a word as `b`; of two that are equally close the greater
comes first. -/
def closerTo (word a b : String) : Bool :=
  let forA := shared a word * (b.length + word.length)
  let forB := shared b word * (a.length + word.length)
  forB < forA || (forA == forB && decide (b ≤ a))

/-- The candidates that are close to a word, at most three, in the order of their names. -/
def closeMatches (word : String) (candidates : List String) : List String :=
  (((candidates.filter (isClose · word)).mergeSort (closerTo word)).take 3).mergeSort
    fun a b => decide (a ≤ b)

end AsmNavigator.Text
