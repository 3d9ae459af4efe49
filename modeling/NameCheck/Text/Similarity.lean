/-!
How similar two words are: the share of characters that they have in common at nearby places, less those that
stand in another order.
-/
namespace NameCheck.Text

/-- Marks the first free place from `least` to below `bound` that holds a character. Places carry whether they
are taken. -/
def claim (c : Char) (least bound : Nat) : (place : Nat) → List (Char × Bool) → Option (List (Char × Bool))
  | _, [] => none
  | place, (d, taken) :: rest =>
    if place < bound ∧ least ≤ place ∧ c = d ∧ !taken then some ((d, true) :: rest)
    else (claim c least bound (place + 1) rest).map ((d, taken) :: ·)

/-- The characters of a word that find a partner in another word not further than `reach` away, and the other
word with the partners marked. -/
def pairOff (reach : Nat) : (place : Nat) → List Char → List (Char × Bool) → List Char × List (Char × Bool)
  | _, [], places => ([], places)
  | place, c :: rest, places =>
    match claim c (place - reach) (place + reach + 1) 0 places with
    | some places =>
      let (paired, places) := pairOff reach (place + 1) rest places
      (c :: paired, places)
    | none => pairOff reach (place + 1) rest places

/-- How similar two words are, as a fraction: the mean of the shares of paired characters in each word and of
the pairs that stand in order. -/
def similarity (a b : String) : Nat × Nat :=
  let as := a.toList
  let bs := b.toList
  let (paired, places) := pairOff (max as.length bs.length / 2 - 1) 0 as (bs.map (·, false))
  let partners := (places.filter (·.2)).map (·.1)
  let swapped := ((paired.zip partners).filter fun (x, y) => x != y).length / 2
  let m := paired.length
  if m = 0 then (0, 1)
  else
    (m * m * bs.length + m * m * as.length + (m - swapped) * as.length * bs.length,
      3 * m * as.length * bs.length)

/-- Those of some words that are more than seven tenths similar to a word. -/
def similarTo (word : String) (words : List String) : List String :=
  words.filter fun other =>
    let (num, den) := similarity word other
    7 * den < 10 * num

/-- The word that is most similar to a word, if it is more than seven tenths similar. -/
def mostSimilar? (word : String) (words : List String) : Option String :=
  (similarTo word words).foldl (fun best other =>
    match best with
    | none => some other
    | some known =>
      let (n, d) := similarity word known
      let (n', d') := similarity word other
      if n * d' ≤ n' * d then some other else some known) none

end NameCheck.Text
