/-!
# Maps of bounded size

A bounded map keeps its keys in the order in which they were first inserted and holds at most
`capacity` of them. A later value of a key takes the place of the earlier one.
-/

namespace Calculator

/-- A map with text keys that has room for `capacity` of them. -/
structure BoundedMap (α : Type) (capacity : Nat) where
  entries : List (String × α)
  length_le : entries.length ≤ capacity

namespace BoundedMap

variable {α : Type} {capacity : Nat}

/-- The map without keys. -/
def empty : BoundedMap α capacity :=
  ⟨[], Nat.zero_le _⟩

/-- The value of a key. -/
def get? (map : BoundedMap α capacity) (key : String) : Option α :=
  map.entries.lookup key

/-- The entries with a new value for a key. -/
def replace (entries : List (String × α)) (key : String) (value : α) : List (String × α) :=
  entries.map fun entry => if entry.1 = key then (key, value) else entry

/-- The map with a value for a key; none if the key is new and there is no room for it. -/
def insert? (map : BoundedMap α capacity) (key : String) (value : α) :
    Option (BoundedMap α capacity) :=
  if map.entries.any (·.1 = key) then
    some ⟨replace map.entries key value, by
      unfold replace
      rw [List.length_map]
      exact map.length_le⟩
  else if h : map.entries.length < capacity then
    some ⟨map.entries ++ [(key, value)], by
      rw [List.length_append, List.length_singleton]
      omega⟩
  else none

/-- The map into which the pairs are inserted in their order; none if they do not fit. -/
def ofList? (pairs : List (String × α)) : Option (BoundedMap α capacity) :=
  pairs.foldlM (fun map (key, value) => map.insert? key value) empty

end BoundedMap

end Calculator
