import LoxFrontEnd.Text.Basic

/-!
# Similarity of words

The Jaro similarity of two words, from 0 for words without a common letter up to 1 for equal
words. Letters match if they are equal and no further apart than half the longer word.
-/
namespace LoxFrontEnd.Similarity

/-- Takes the letter `c` out of the positions from `low` up to `high` of a word, where taken letters
are marked. -/
def matchLetter? (c : Char) (low high position : Nat) :
    List (Char × Bool) → Option (List (Char × Bool))
  | [] => none
  | (d, taken) :: ds =>
    if low ≤ position ∧ position < high ∧ d = c ∧ !taken then some ((d, true) :: ds)
    else (matchLetter? c low high (position + 1) ds).map ((d, taken) :: ·)

/-- The matched letters of the first word in their order, and the second word with the matched
letters marked. -/
def matchedFrom (reach position : Nat) : Text → List (Char × Bool) → Text × List (Char × Bool)
  | [], word => ([], word)
  | c :: cs, word =>
    match matchLetter? c (position - reach) (position + reach + 1) 0 word with
    | none => matchedFrom reach (position + 1) cs word
    | some word =>
      let (matched, word) := matchedFrom reach (position + 1) cs word
      (c :: matched, word)

/-- The Jaro similarity, summed and divided in floating point. -/
def jaro (s t : Text) : Float :=
  if s.isEmpty && t.isEmpty then 1
  else
    let reach := max s.length t.length / 2 - 1
    let (inFirst, marked) := matchedFrom reach 0 s (t.map fun c => (c, false))
    let inSecond := marked.filterMap fun (c, taken) => if taken then some c else none
    let common := inFirst.length
    let moved := (inFirst.zip inSecond).countP (fun (c, d) => c != d) / 2
    if common = 0 then 0
    else
      (common.toFloat / s.length.toFloat + common.toFloat / t.length.toFloat +
        (common - moved).toFloat / common.toFloat) / 3

/-- Words less similar than this are not worth suggesting. -/
def threshold : Float := 0.7

/-- The candidate that is most similar to a word, if one is similar enough; the last one of
several. -/
def closest? {α : Type} (word : Text) (spelling : α → Text) (candidates : List α) : Option α :=
  let keep (best : Option (Float × α)) (candidate : α) : Option (Float × α) :=
    let similarity := jaro word (spelling candidate)
    if similarity > threshold ∧ best.all (fun b => b.1 ≤ similarity) then
      some (similarity, candidate)
    else best
  (candidates.foldl keep none).map (·.2)

end LoxFrontEnd.Similarity
