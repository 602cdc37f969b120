import Calculator.BoundedMap
import Std.Data.HashMap
import Std.Data.TreeMap

/-!
# Variables

A source of variables gives values to names. Lists of pairs and maps are sources: of a list the
first pair with a name counts, of a map the value that was inserted last.
-/

namespace Calculator

/-- A source of variables: the value of each name that it knows. -/
abbrev Variables (α : Type) : Type :=
  String → Option α

namespace Variables

variable {α : Type}

/-- The source that knows no name. -/
def none : Variables α :=
  fun _ => Option.none

/-- The source in which the first pair with a name gives its value. -/
def ofList (pairs : List (String × α)) : Variables α :=
  fun name => pairs.lookup name

/-- The source with the entries of a hash map. -/
def ofHashMap (map : Std.HashMap String α) : Variables α :=
  fun name => map[name]?

/-- The source with the entries of an ordered map. -/
def ofTreeMap (map : Std.TreeMap String α) : Variables α :=
  fun name => map[name]?

/-- The source with the entries of a bounded map. -/
def ofBoundedMap {capacity : Nat} (map : BoundedMap α capacity) : Variables α :=
  map.get?

end Variables

end Calculator
