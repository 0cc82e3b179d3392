/-!
# Similar words

How much of two words is made of common parts. The longest common part is found first, then the
longest ones before it and behind it, and so on. Words of which enough is common are near misses
(`closeMatches`), best first.
-/

namespace ScriptLint

/-- The length of the common front of two texts. -/
def commonFront : List Char → List Char → Nat
  | a :: as, b :: bs => if a = b then commonFront as bs + 1 else 0
  | _, _ => 0

/-- A common part: where it starts in each of two texts, and its length. -/
structure CommonPart where
  left : Nat
  right : Nat
  size : Nat
deriving Repr, DecidableEq

/-- The longest common part of two texts; of several, the first in the left text and then in the
right one. -/
def longestCommon (as bs : List Char) : CommonPart :=
  (List.range as.length).foldl (fun best i =>
    (List.range bs.length).foldl (fun best j =>
      let size := commonFront (as.drop i) (bs.drop j)
      if best.size < size then ⟨i, j, size⟩ else best) best) ⟨0, 0, 0⟩

/-- The number of common characters of two texts. Every common part shortens the left text, so its
length bounds the `rounds` needed. -/
def commonCount : (rounds : Nat) → List Char → List Char → Nat
  | 0, _, _ => 0
  | rounds + 1, as, bs =>
    let part := longestCommon as bs
    if part.size = 0 then 0
    else
      part.size + commonCount rounds (as.take part.left) (bs.take part.right) +
        commonCount rounds (as.drop (part.left + part.size)) (bs.drop (part.right + part.size))

/-- A candidate with its common characters and the length of both words. -/
structure Scored where
  word : String
  common : Nat
  total : Nat
deriving Repr, DecidableEq

/-- Scores a candidate against a word. -/
def score (word candidate : String) : Scored :=
  ⟨candidate, commonCount candidate.length candidate.toList word.toList,
    candidate.length + word.length⟩

/-- Whether at least three fifths of both words are common. -/
def Scored.isClose (s : Scored) : Bool := 3 * s.total ≤ 10 * s.common

/-- Whether a candidate comes before another: by its score, and then by the word. -/
def Scored.before (a b : Scored) : Bool :=
  let x := a.common * b.total
  let y := b.common * a.total
  x > y || (x == y && decide (a.word ≥ b.word))

/-- The candidates that are near misses of a word, at most three, best first. -/
def closeMatches (word : String) (candidates : List String) : List String :=
  ((((candidates.map (score word)).filter (·.isClose)).mergeSort Scored.before).take 3).map (·.word)

end ScriptLint
