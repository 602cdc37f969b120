/-!
# Structured data

Values of the library are stored as structured data: flags, numbers, texts, lists and records
with named fields. What has no use here is kept apart as `other`.
-/

namespace Calculator

/-- Structured data. -/
inductive Datum
  | flag (value : Bool)
  | number (value : Nat)
  | text (value : String)
  | list (items : List Datum)
  | fields (entries : List (String × Datum))
  | other

namespace Datum

/-- A flag; none if the datum is anything else. -/
def flag? : Datum → Option Bool
  | flag value => some value
  | _ => none

/-- The flag in a field, or `standard` if there is no such field; none if the field holds no
flag. -/
def flagField? (entries : List (String × Datum)) (name : String) (standard : Bool) :
    Option Bool :=
  match entries.lookup name with
  | some datum => datum.flag?
  | none => some standard

end Datum

end Calculator
