import LivePage.Text.Basic
/-!
# Suggestions

What to tell an author whose reference names nothing: a defined name that contains the reference or is contained
in it, else all names there are.
-/
namespace LivePage

open Text

/-- Help with a reference that does not resolve. -/
inductive Suggestion where
  | didYouMean (name : String)
  /-- No close match; every defined name, in ascending order and once. -/
  | available (names : List String)
  | noneDefined
deriving DecidableEq, Repr

def near (reference name : String) : Bool :=
  occursIn reference.toList name.toList || occursIn name.toList reference.toList

/-- The first near name in ascending order (`suggest`); an empty reference is near to none. -/
def suggest (reference : String) (defined : List String) : Suggestion :=
  let names := (defined.mergeSort (fun a b => decide (a ≤ b))).eraseReps
  if names.isEmpty then .noneDefined
  else if reference.isEmpty then .available names
  else match names.find? (near reference) with
    | some name => .didYouMean name
    | none => .available names

end LivePage
