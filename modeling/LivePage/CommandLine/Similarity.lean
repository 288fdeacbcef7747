/-!
# Similar words

How similar two words are, from zero to one: the share of characters that each has in common with the other at nearly
the same place, less the part of them whose order differs.
-/
namespace LivePage.CommandLine

/-- Takes the first character of a window that is equal to `c` and not taken yet; places count from `place`. -/
def takeMatch (c : Char) (low high : Nat) : Nat → List (Char × Bool) → Option (List (Char × Bool))
  | _, [] => none
  | place, (d, taken) :: rest =>
    if high ≤ place then none
    else if low ≤ place ∧ c = d ∧ taken = false then some ((d, true) :: rest)
    else (takeMatch c low high (place + 1) rest).map ((d, taken) :: ·)

/-- The characters of a word that have a match in another one, and that word with its matches marked. -/
def matchAll (range : Nat) : Nat → List Char → List (Char × Bool) → List Char × List (Char × Bool)
  | _, [], other => ([], other)
  | place, c :: cs, other =>
    match takeMatch c (place - range) (place + range + 1) 0 other with
    | some other =>
      let (found, other) := matchAll range (place + 1) cs other
      (c :: found, other)
    | none => matchAll range (place + 1) cs other

def similarity (a b : String) : Float :=
  let n := a.length
  let m := b.length
  if n = 0 ∧ m = 0 then 1.0 else
  let (left, marked) := matchAll (max n m / 2 - 1) 0 a.toList (b.toList.map fun c => (c, false))
  let right := (marked.filter (·.2)).map (·.1)
  let matched := left.length
  if matched = 0 then 0.0 else
  let moved := ((left.zip right).filter fun (c, d) => c ≠ d).length / 2
  let count := Float.ofNat matched
  (count / Float.ofNat n + count / Float.ofNat m + Float.ofNat (matched - moved) / count) / 3.0

/-- Puts a word with its similarity after all that are no more similar. -/
def insertRanked (entry : Float × String) : List (Float × String) → List (Float × String)
  | [] => [entry]
  | other :: rest => if other.1 > entry.1 then entry :: other :: rest else other :: insertRanked entry rest

/-- The words that are similar enough to be meant by another one, the most similar last. -/
def similarWords (word : String) (words : List String) : List String :=
  (words.foldl (fun ranked w =>
    let s := similarity word w
    if s > 0.7 then insertRanked (s, w) ranked else ranked) []).map (·.2)

end LivePage.CommandLine
