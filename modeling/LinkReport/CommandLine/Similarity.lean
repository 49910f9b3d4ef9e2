/-!
# Similarity of words

The Jaro similarity of two words is the mean of three shares: the characters of the first
word that match one of the second, those of the second that match one of the first, and
the matches that stand in the same order. Two equal characters match if they stand no
farther apart than half the longer word, less one; every character matches at most once.
-/

namespace LinkReport.CommandLine.Similarity

/-- The place of the first character equal to `c` that is not taken yet, from place `first`
up to `stop`. -/
def firstMatch? (c : Char) (first stop : Nat) (word : List Char) (taken : List Nat) :
    Option Nat :=
  (List.range word.length).find? fun j =>
    first ≤ j && j < stop && word[j]? == some c && !taken.contains j

/-- The pairs of places of matching characters, in the order of the first word. -/
def matchingPlaces (reach : Nat) (a b : List Char) : List (Nat × Nat) :=
  a.zipIdx.foldl (fun pairs (c, i) =>
    match firstMatch? c (i - reach) (i + reach + 1) b (pairs.map Prod.snd) with
    | some j => pairs ++ [(i, j)]
    | none => pairs) []

/-- The number of places, among the matching characters of both words in their own orders,
where the characters differ. -/
def outOfOrder (a b : List Char) (pairs : List (Nat × Nat)) : Nat :=
  let inA := a.zipIdx.filter fun (_, i) => pairs.any (·.1 == i)
  let inB := b.zipIdx.filter fun (_, j) => pairs.any (·.2 == j)
  ((inA.zip inB).filter fun (x, y) => x.1 != y.1).length

/-- The Jaro similarity of two words, between 0 and 1. Words without a match have none, and
two empty words are the same. -/
def jaro (a b : List Char) : Rat :=
  if a = [] ∧ b = [] then 1
  else
    let pairs := matchingPlaces (max a.length b.length / 2 - 1) a b
    let hits := pairs.length
    let swaps := outOfOrder a b pairs / 2
    ((hits : Rat) / a.length + (hits : Rat) / b.length + ((hits - swaps : Nat) : Rat) / hits) / 3

/-- Words that are not more similar than this are not confused. -/
def threshold : Rat := 7 / 10

/-- Of two scored words the better one, and of equally good ones the later. -/
def better (best : Option (String × Rat)) (next : String × Rat) : Option (String × Rat) :=
  match best with
  | some b => if b.2 ≤ next.2 then some next else some b
  | none => some next

/-- The word most similar to `word`, if one is similar enough; of words that are equally
similar, the last. -/
def closest? (word : List Char) (candidates : List String) : Option String :=
  let scored := (candidates.map fun c => (c, jaro word c.toList)).filter (threshold < ·.2)
  (scored.foldl better none).map Prod.fst

end LinkReport.CommandLine.Similarity
