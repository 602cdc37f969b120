import Calculator.Variables
import Mathlib.Data.Finset.Card
import Mathlib.Data.Finset.Dedup

/-!
# Containers of variables

Of a list of pairs the first one with a name counts, of a map the value that was inserted last. So
a map that is filled from the end of the list knows the same values as the list. A bounded map has
room for a list exactly if the list has no more names than the map may have keys.
-/

namespace Calculator

variable {α : Type}

namespace BoundedMap

variable {capacity : Nat}

/-- The keys of a map in the order in which they were first inserted. -/
def keys (map : BoundedMap α capacity) : List String :=
  map.entries.map Prod.fst

/-- Replacing the value of a key changes what is found for this key only. -/
theorem lookup_replace (entries : List (String × α)) (key : String) (x : α) (name : String) :
    (replace entries key x).lookup name =
      if name = key then (entries.lookup key).map fun _ => x else entries.lookup name := by
  unfold replace
  induction entries with
  | nil => simp
  | cons entry rest ih =>
    obtain ⟨first, y⟩ := entry
    rw [List.map_cons]
    by_cases hfirst : first = key
    · subst hfirst
      by_cases hname : name = first
      · simp [hname]
      · have hne : (name == first) = false := by simpa using hname
        simpa [List.lookup_cons, hne, hname] using ih
    · have hne : (key == first) = false := beq_eq_false_iff_ne.mpr (Ne.symm hfirst)
      by_cases hname : name = first
      · subst hname
        simp [hfirst]
      · have hother : (name == first) = false := by simpa using hname
        simpa [List.lookup_cons, hne, hother, hfirst] using ih

/-- There is a value exactly for every key. -/
theorem isSome_lookup_iff {entries : List (String × α)} {key : String} :
    (entries.lookup key).isSome ↔ key ∈ entries.map Prod.fst := by
  rw [List.lookup_isSome_iff, List.mem_map]
  exact exists_congr fun entry => and_congr_right fun _ => by rw [beq_iff_eq, eq_comm]

/-- Replacing a value changes no key. -/
theorem map_fst_replace (entries : List (String × α)) (key : String) (x : α) :
    (replace entries key x).map Prod.fst = entries.map Prod.fst := by
  unfold replace
  rw [List.map_map]
  refine List.map_congr_left fun entry _ => ?_
  by_cases hentry : entry.1 = key <;> simp [hentry]

/-- An insertion replaces the value of a key that is there, and takes room for a new one. -/
theorem insert?_eq_some {map after : BoundedMap α capacity} {key : String} {x : α}
    (hinsert : map.insert? key x = some after) :
    key ∈ map.keys ∧ after.entries = replace map.entries key x ∨
      key ∉ map.keys ∧ after.entries = map.entries ++ [(key, x)] := by
  have hkeys : map.entries.any (·.1 = key) = true ↔ key ∈ map.keys := by simp [keys]
  unfold insert? at hinsert
  split at hinsert
  · rename_i hany
    cases hinsert
    exact .inl ⟨hkeys.mp hany, rfl⟩
  · rename_i hany
    split at hinsert
    · cases hinsert
      exact .inr ⟨fun hmem => hany (hkeys.mpr hmem), rfl⟩
    · cases hinsert

/-- An insertion fails exactly if the key is new and there is no room. -/
theorem insert?_eq_none_iff {map : BoundedMap α capacity} {key : String} {x : α} :
    map.insert? key x = none ↔ key ∉ map.keys ∧ map.entries.length = capacity := by
  have hkeys : map.entries.any (·.1 = key) = true ↔ key ∈ map.keys := by simp [keys]
  have hroom := map.length_le
  unfold insert?
  split
  · rename_i hany
    simp [hkeys.mp hany]
  · rename_i hany
    rw [hkeys] at hany
    split
    · simp [hany]
      omega
    · simp [hany]
      omega

/-- Behind an insertion the key has the new value, and all other keys have their old ones. -/
theorem get?_of_insert? {map after : BoundedMap α capacity} {key : String} {x : α}
    (hinsert : map.insert? key x = some after) (name : String) :
    after.get? name = if name = key then some x else map.get? name := by
  unfold get?
  rcases insert?_eq_some hinsert with ⟨hmem, hafter⟩ | ⟨hnew, hafter⟩
  · obtain ⟨y, hy⟩ := Option.isSome_iff_exists.mp (isSome_lookup_iff.mpr hmem)
    rw [hafter, lookup_replace, hy]
    rfl
  · rw [keys, ← isSome_lookup_iff, Option.not_isSome_iff_eq_none] at hnew
    rw [hafter, List.lookup_append]
    split
    · rename_i hname
      rw [hname, hnew]
      simp
    · rename_i hname
      have hne : (name == key) = false := by simpa using hname
      simp [List.lookup_cons, hne]

/-- Pairs are inserted one after the other. -/
theorem ofList?_concat (pairs : List (String × α)) (pair : String × α) :
    (ofList? (pairs ++ [pair]) : Option (BoundedMap α capacity)) =
      (ofList? pairs).bind (·.insert? pair.1 pair.2) := by
  unfold ofList?
  rw [List.foldlM_append]
  refine congrArg _ (funext fun map => ?_)
  rw [List.foldlM_cons]
  exact bind_pure _

/-- A map that is filled has the names of its pairs as keys, each of them once. -/
theorem keys_of_ofList? {pairs : List (String × α)} {map : BoundedMap α capacity}
    (hmap : ofList? pairs = some map) :
    map.keys.Nodup ∧ map.keys.toFinset = (pairs.map Prod.fst).toFinset := by
  induction pairs using List.reverseRecOn generalizing map with
  | nil =>
    cases hmap
    exact ⟨List.nodup_nil, rfl⟩
  | append_singleton pairs pair ih =>
    rw [ofList?_concat, Option.bind_eq_some_iff] at hmap
    obtain ⟨before, hbefore, hinsert⟩ := hmap
    obtain ⟨hnodup, hnames⟩ := ih hbefore
    rw [List.map_append, List.toFinset_append, ← hnames, ← List.toFinset_append]
    rcases insert?_eq_some hinsert with ⟨hmem, hentries⟩ | ⟨hnew, hentries⟩
    · have hkeys : map.keys = before.keys := by rw [keys, hentries, map_fst_replace, keys]
      rw [hkeys]
      refine ⟨hnodup, ?_⟩
      ext name
      simp
      rintro rfl
      exact hmem
    · have hkeys : map.keys = before.keys ++ [pair.1] := by
        rw [keys, hentries, List.map_append, keys]
        rfl
      rw [hkeys]
      exact ⟨List.nodup_append.mpr ⟨hnodup, List.nodup_singleton _, by
        rintro name hname _ hsame rfl
        rw [List.mem_singleton.mp hsame] at hname
        exact hnew hname⟩, rfl⟩

/-- A map has as many entries as the pairs have names. -/
theorem length_of_ofList? {pairs : List (String × α)} {map : BoundedMap α capacity}
    (hmap : ofList? pairs = some map) :
    map.entries.length = (pairs.map Prod.fst).toFinset.card := by
  obtain ⟨hnodup, hnames⟩ := keys_of_ofList? hmap
  rw [← hnames, List.toFinset_card_of_nodup hnodup, keys, List.length_map]

/-- A map has room for pairs exactly if it may have as many keys as they have names. -/
theorem isSome_ofList?_iff (pairs : List (String × α)) :
    (ofList? pairs : Option (BoundedMap α capacity)).isSome ↔
      (pairs.map Prod.fst).toFinset.card ≤ capacity := by
  constructor
  · intro hsome
    obtain ⟨map, hmap⟩ := Option.isSome_iff_exists.mp hsome
    rw [← length_of_ofList? hmap]
    exact map.length_le
  · intro hroom
    induction pairs using List.reverseRecOn with
    | nil => rfl
    | append_singleton pairs pair ih =>
      have hnames : ((pairs ++ [pair]).map Prod.fst).toFinset =
          insert pair.1 (pairs.map Prod.fst).toFinset := by
        ext name
        simp
      rw [hnames] at hroom
      have hle := Finset.card_le_card (Finset.subset_insert pair.1 (pairs.map Prod.fst).toFinset)
      obtain ⟨map, hmap⟩ := Option.isSome_iff_exists.mp (ih (hle.trans hroom))
      rw [ofList?_concat, hmap, Option.bind_some, ← Option.ne_none_iff_isSome]
      intro hfull
      obtain ⟨hnew, hlength⟩ := insert?_eq_none_iff.mp hfull
      rw [← List.mem_toFinset, (keys_of_ofList? hmap).2] at hnew
      rw [Finset.card_insert_of_notMem hnew, ← length_of_ofList? hmap] at hroom
      omega

end BoundedMap

namespace Variables

/-- The first pair with a name comes before all others. -/
theorem ofList_cons (pair : String × α) (rest : List (String × α)) (name : String) :
    ofList (pair :: rest) name = if name = pair.1 then some pair.2 else ofList rest name := by
  rw [ofList, List.lookup_cons]
  by_cases hname : name = pair.1
  · simp [hname]
  · rw [beq_eq_false_iff_ne.mpr hname, if_neg hname]
    rfl

/-- A hash map that is filled from the end of a list knows what the list knows. -/
theorem ofHashMap_ofList (pairs : List (String × α)) :
    ofHashMap (Std.HashMap.ofList pairs.reverse) = ofList pairs := by
  funext name
  induction pairs with
  | nil => simp [ofHashMap, ofList]
  | cons pair rest ih =>
    rw [ofHashMap, Std.HashMap.ofList_eq_insertMany_empty] at ih
    rw [ofHashMap, List.reverse_cons, Std.HashMap.ofList_eq_insertMany_empty,
      Std.HashMap.insertMany_append, Std.HashMap.insertMany_list_singleton,
      Std.HashMap.getElem?_insert, ih, ofList_cons]
    simp only [beq_iff_eq, @eq_comm _ name]

/-- An ordered map that is filled from the end of a list knows what the list knows. -/
theorem ofTreeMap_ofList (pairs : List (String × α)) :
    ofTreeMap (Std.TreeMap.ofList pairs.reverse) = ofList pairs := by
  funext name
  induction pairs with
  | nil => simp [ofTreeMap, ofList]
  | cons pair rest ih =>
    rw [ofTreeMap, Std.TreeMap.ofList_eq_insertMany_empty] at ih
    rw [ofTreeMap, List.reverse_cons, Std.TreeMap.ofList_eq_insertMany_empty,
      Std.TreeMap.insertMany_append, Std.TreeMap.insertMany_list_singleton,
      Std.TreeMap.getElem?_insert, ih, ofList_cons]
    simp only [Std.LawfulEqCmp.compare_eq_iff_eq, @eq_comm _ name]

/-- A bounded map that is filled from the end of a list knows what the list knows. -/
theorem ofBoundedMap_ofList? {capacity : Nat} {pairs : List (String × α)}
    {map : BoundedMap α capacity} (hmap : BoundedMap.ofList? pairs.reverse = some map) :
    ofBoundedMap map = ofList pairs := by
  induction pairs generalizing map with
  | nil =>
    cases hmap
    rfl
  | cons pair rest ih =>
    rw [List.reverse_cons, BoundedMap.ofList?_concat, Option.bind_eq_some_iff] at hmap
    obtain ⟨before, hbefore, hinsert⟩ := hmap
    funext name
    rw [ofBoundedMap, BoundedMap.get?_of_insert? hinsert, ofList_cons, ← ih hbefore]
    rfl

end Variables

end Calculator
