import Mathlib.Data.Finset.Card
import Mathlib.Data.List.Induction
import RunRadar.Filter.Catalog

/-!
# RunRadar.Proofs.Filter.Registration

**Registrations in order.** Whatever filters are registered one after the other, and however often
under the same identifier, each identifier keeps the place of its first registration and stands for
the filter of its last one (`first_place_last_filter`). One registration does so much: it adds an
identifier at the end or none, and what is found under the other identifiers stays.
-/

namespace RunRadar.Registry

/-! ### One more registration -/

/-- The registry of some filters and one more. -/
theorem ofList_append_singleton (fs : List Filter) (filter : Filter) :
    ofList (fs ++ [filter]) = (ofList fs).register filter := by
  simp only [ofList, registerAll, List.foldl_append, List.foldl_cons, List.foldl_nil]

/-- Filters can be registered in several goes. -/
theorem registerAll_ofList (fs gs : List Filter) :
    (ofList fs).registerAll gs = ofList (fs ++ gs) := by
  simp only [ofList, registerAll, List.foldl_append]

/-! ### All registrations -/

/-- Each identifier stands where it was registered first. -/
theorem ids_ofList (fs : List Filter) : (ofList fs).ids = (Filter.ids fs).eraseDups := by
  induction fs using List.reverseRecOn with
  | nil => rfl
  | append_singleton fs filter ih =>
      have hids : Filter.ids (fs ++ [filter]) = Filter.ids fs ++ [filter.id] := List.map_append
      rw [ofList_append_singleton, ids, register, Filter.ids_put, ← ids, ih, hids,
        List.eraseDups_append]
      by_cases hm : filter.id ∈ Filter.ids fs
      · simp [hm, List.removeAll]
      · simp [hm, List.removeAll, List.eraseDups_cons]

/-- Under an identifier one finds the first of the filters in reverse. -/
theorem lookup?_ofList (fs : List Filter) (id : String) :
    (ofList fs).lookup? id = fs.reverse.find? (·.id = id) := by
  induction fs using List.reverseRecOn with
  | nil => rfl
  | append_singleton fs filter ih =>
      rw [ofList_append_singleton, lookup?_register, ih, List.reverse_concat]
      by_cases h : filter.id = id <;> simp [h]

/-- The filter that is found was registered under the identifier, and none later. -/
theorem lookup?_ofList_eq_some_iff {fs : List Filter} {id : String} {filter : Filter} :
    (ofList fs).lookup? id = some filter ↔
      ∃ before after, fs = before ++ filter :: after ∧ filter.id = id ∧ ∀ g ∈ after, g.id ≠ id := by
  rw [lookup?_ofList, List.find?_eq_some_iff_append]
  constructor
  · rintro ⟨hid, after, before, hfs, hafter⟩
    refine ⟨before.reverse, after.reverse, ?_, of_decide_eq_true hid, fun g hg => ?_⟩
    · rw [← List.reverse_inj, hfs]
      simp
    · simpa using hafter g (List.mem_reverse.mp hg)
  · rintro ⟨before, after, rfl, hid, hafter⟩
    refine ⟨decide_eq_true hid, after.reverse, before.reverse, by simp, fun g hg => ?_⟩
    simpa using hafter g (List.mem_reverse.mp hg)

/-- Nothing is found under identifiers that were never registered, and only under those. -/
theorem lookup?_ofList_eq_none_iff {fs : List Filter} {id : String} :
    (ofList fs).lookup? id = none ↔ id ∉ Filter.ids fs := by
  rw [lookup?_ofList, List.find?_eq_none]
  simp [Filter.ids]

/-- There are as many filters as different identifiers were registered. -/
theorem size_ofList (fs : List Filter) : (ofList fs).size = (Filter.ids fs).toFinset.card := by
  have hsame : (ofList fs).ids.toFinset = (Filter.ids fs).toFinset := by
    ext id
    rw [List.mem_toFinset, List.mem_toFinset, ids_ofList, List.mem_eraseDups]
  have hlength : (ofList fs).ids.length = (ofList fs).size := List.length_map _
  rw [← hsame, ← hlength, List.toFinset_card_of_nodup]
  exact (ofList fs).nodup

/-- A registry is an ordered map. Its identifiers differ and stand in the order in which they were
registered first, and there are as many of them as were registered at all. Under an identifier one
finds the filter that was registered under it last, at the place where the identifier stands, and
nothing if none was. All this holds of filters that are registered in several goes, such as further
ones after the built-in ones. -/
theorem first_place_last_filter (fs : List Filter) :
    (ofList fs).ids.Nodup ∧
    (ofList fs).ids = (Filter.ids fs).eraseDups ∧
    (ofList fs).size = (Filter.ids fs).toFinset.card ∧
    (∀ id filter, (ofList fs).lookup? id = some filter ↔
      ∃ before after, fs = before ++ filter :: after ∧ filter.id = id ∧ ∀ g ∈ after, g.id ≠ id) ∧
    (∀ id, (ofList fs).lookup? id = none ↔ id ∉ Filter.ids fs) ∧
    (∀ id i, (ofList fs).position? id = some i ↔ (ofList fs).ids[i]? = some id) ∧
    ∀ gs, (ofList fs).registerAll gs = ofList (fs ++ gs) := by
  refine ⟨(ofList fs).nodup, ids_ofList fs, size_ofList fs, ?_, ?_, ?_, registerAll_ofList fs⟩
  · intro id filter
    exact lookup?_ofList_eq_some_iff
  · intro id
    exact lookup?_ofList_eq_none_iff
  · intro id i
    exact position?_eq_some_iff

/-- Another filter for the status takes the place of the built-in one. -/
example :
    let filter : Filter := ⟨"status", [], .pushdown fun _ => .ok .always⟩
    (builtin.register filter).lookup? "status" = some filter ∧
      (builtin.register filter).position? "status" = some 3 ∧
      (builtin.register filter).ids = builtin.ids := ⟨rfl, rfl, rfl⟩

end RunRadar.Registry
