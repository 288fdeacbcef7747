/-!
# Dictionaries

Finite maps from names to values, kept as lists in ascending order of names. The order is that of the names'
characters, so listing a dictionary always gives the same sequence.
-/
namespace LivePage

/-- Names with their values, in ascending order of names. -/
abbrev Dictionary (α : Type) := List (String × α)

namespace Dictionary

/-- Binds a name, replacing what it was bound to. -/
def insert {α : Type} (name : String) (value : α) : Dictionary α → Dictionary α
  | [] => [(name, value)]
  | (n, v) :: rest =>
    if name = n then (name, value) :: rest
    else if name < n then (name, value) :: (n, v) :: rest
    else (n, v) :: insert name value rest

def find? {α : Type} (d : Dictionary α) (name : String) : Option α := d.lookup name

def contains {α : Type} (d : Dictionary α) (name : String) : Bool := (d.find? name).isSome

def names {α : Type} (d : Dictionary α) : List String := d.map (·.1)

end Dictionary

end LivePage
