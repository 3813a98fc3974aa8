import RunRadar.Filter.Basic

/-!
# RunRadar.Filter.Registry

**Registries** of filters: an ordered map from identifiers to definitions. A filter that is
registered under an identifier again takes the place of the earlier one. Filters are found
through an index of their positions. Trees may name filters that are not registered; they
count as passed.
-/

namespace RunRadar

/-- The identifiers of filters, in their order. -/
def Filter.ids (filters : List Filter) : List String := filters.map (·.id)

/-- The position of each identifier, the later positions first: where an identifier is repeated,
the last one counts. -/
def Filter.positions (filters : List Filter) : List (String × Nat) :=
  (filters.zipIdx.map fun (filter, i) => (filter.id, i)).reverse

/-- Puts a filter in the place of the one with the same identifier, or at the end. -/
def Filter.put (filter : Filter) : List Filter → List Filter
  | [] => [filter]
  | f :: fs => if f.id = filter.id then filter :: fs else f :: put filter fs

namespace Filter

/-- Only the identifier of a new filter is added. -/
theorem ids_put (filter : Filter) (fs : List Filter) :
    ids (filter.put fs) = if filter.id ∈ ids fs then ids fs else ids fs ++ [filter.id] := by
  induction fs with
  | nil => rfl
  | cons f fs ih =>
    by_cases h : f.id = filter.id
    · simp [put, ids, h]
    · have h' : filter.id ≠ f.id := fun e => h e.symm
      have cons (gs : List Filter) : ids (f :: gs) = f.id :: ids gs := rfl
      rw [put, if_neg h, cons, cons, ih]
      by_cases hm : filter.id ∈ ids fs <;> simp [hm, h']

theorem mem_positions {fs : List Filter} {id : String} {i : Nat} :
    (id, i) ∈ positions fs ↔ (ids fs)[i]? = some id := by
  simp [positions, ids, List.mem_zipIdx_iff_getElem?]

theorem nodup_ids_put {fs : List Filter} (h : (ids fs).Nodup) (filter : Filter) :
    (ids (filter.put fs)).Nodup := by
  rw [ids_put]
  split
  · exact h
  · next hn =>
    refine List.nodup_append.2 ⟨h, by simp, fun a ha b hb e => hn ?_⟩
    obtain rfl := List.mem_singleton.1 hb
    exact e ▸ ha

end Filter

/-- Filters with different identifiers, in order of their first registration. -/
structure Registry where
  filters : List Filter
  nodup : (Filter.ids filters).Nodup

namespace Registry

/-- The registry without filters. -/
def empty : Registry := ⟨[], by simp [Filter.ids]⟩

instance : Inhabited Registry := ⟨empty⟩

/-- Adds a filter, in the place of one with the same identifier if there is one. -/
def register (registry : Registry) (filter : Filter) : Registry :=
  ⟨filter.put registry.filters, Filter.nodup_ids_put registry.nodup filter⟩

/-- The registry with further filters, registered in order. -/
def registerAll (registry : Registry) (filters : List Filter) : Registry :=
  filters.foldl register registry

/-- The registry of the given filters, registered in order. -/
def ofList (filters : List Filter) : Registry := empty.registerAll filters

/-- The position of the filter with an identifier. -/
def position? (registry : Registry) (id : String) : Option Nat :=
  (Filter.positions registry.filters).lookup id

/-- The filter with an identifier. -/
def lookup? (registry : Registry) (id : String) : Option Filter :=
  (registry.position? id).bind fun i => registry.filters[i]?

/-- The identifiers, in order. -/
def ids (registry : Registry) : List String := Filter.ids registry.filters

def size (registry : Registry) : Nat := registry.filters.length

def isEmpty (registry : Registry) : Bool := registry.filters.isEmpty

/-- A position is that of the identifier. -/
theorem position?_eq_some_iff {registry : Registry} {id : String} {i : Nat} :
    registry.position? id = some i ↔ registry.ids[i]? = some id := by
  have sound {j : Nat} (h : registry.position? id = some j) : registry.ids[j]? = some id := by
    obtain ⟨before, after, hsplit, -⟩ := List.lookup_eq_some_iff.mp h
    exact Filter.mem_positions.mp (hsplit ▸ List.mem_append_right _ List.mem_cons_self)
  refine ⟨sound, fun h => ?_⟩
  cases hj : registry.position? id with
  | none =>
    have hne := List.lookup_eq_none_iff.mp hj (id, i) (Filter.mem_positions.mpr h)
    simp at hne
  | some j =>
    -- no identifier stands at two positions
    have hlt : i < registry.ids.length := (List.getElem?_eq_some_iff.mp h).1
    rw [(List.getElem?_inj hlt registry.nodup).mp (h.trans (sound hj).symm)]

/-- Through the index one finds the filter that a search through all of them would find. -/
theorem lookup?_eq_find? (registry : Registry) (id : String) :
    registry.lookup? id = registry.filters.find? (·.id = id) := by
  have at_position {i : Nat} {filter : Filter} (h : registry.filters[i]? = some filter)
      (hid : filter.id = id) : registry.position? id = some i := by
    rw [position?_eq_some_iff, ids, Filter.ids, List.getElem?_map, h, Option.map_some, hid]
  cases hfind : registry.filters.find? (·.id = id) with
  | none =>
    rw [lookup?, Option.bind_eq_none_iff]
    intro i hi
    rw [position?_eq_some_iff, ids, Filter.ids, List.getElem?_map, Option.map_eq_some_iff] at hi
    obtain ⟨filter, hfilter, hid⟩ := hi
    have hne := List.find?_eq_none.mp hfind filter (List.mem_of_getElem? hfilter)
    exact absurd (decide_eq_true hid) hne
  | some filter =>
    obtain ⟨i, hi⟩ := List.getElem?_of_mem (List.mem_of_find?_eq_some hfind)
    have hid : filter.id = id := by simpa using List.find?_some hfind
    rw [lookup?, at_position hi hid, Option.bind_some, hi]

/-- A filter that is found has the identifier it was looked up by. -/
theorem id_of_lookup? {registry : Registry} {id : String} {filter : Filter}
    (h : registry.lookup? id = some filter) : filter.id = id := by
  rw [lookup?_eq_find?] at h
  simpa using List.find?_some h

/-- A filter that is found is one of the registry. -/
theorem mem_of_lookup? {registry : Registry} {id : String} {filter : Filter}
    (h : registry.lookup? id = some filter) : filter ∈ registry.filters :=
  List.mem_of_find?_eq_some (lookup?_eq_find? registry id ▸ h)

/-- What is found after a registration: the new filter under its own identifier, and all else
as before. -/
theorem lookup?_register (registry : Registry) (filter : Filter) (id : String) :
    (registry.register filter).lookup? id =
      if filter.id = id then some filter else registry.lookup? id := by
  simp only [lookup?_eq_find?, register]
  induction registry.filters with
  | nil => by_cases h : filter.id = id <;> simp [Filter.put, h]
  | cons f fs ih =>
    by_cases h : f.id = filter.id <;> by_cases hi : filter.id = id
    · simp [Filter.put, h, hi]
    · simp [Filter.put, h, hi]
    · have : f.id ≠ id := fun e => h (e.trans hi.symm)
      simp_all [Filter.put]
    · by_cases hf : f.id = id <;> simp_all [Filter.put]

end Registry

end RunRadar
