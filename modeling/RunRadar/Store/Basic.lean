import RunRadar.Predicate.Basic
import RunRadar.Radar
import RunRadar.Run.Basic
import RunRadar.Store.Error

/-!
# RunRadar.Store.Basic

What the engine asks of **storage**, whatever stands behind it. A storage is a state, and for
each request a step on states with an answer, which may be an error.
-/

namespace RunRadar

/-- A step of a storage with states `σ`. -/
abbrev StoreStep (σ α : Type) := σ → Except StoreError α × σ

/-- A storage with states `σ`. -/
structure Storage (σ : Type) where
  /-- All radars, in storage order. -/
  listRadars : StoreStep σ (List Radar)
  /-- The oldest runs of the radar's project that are in scope and have no result for the radar,
  up to the limit. -/
  fetchUnscored : (radar : Radar) → (scope : Predicate) → (limit : Nat) → StoreStep σ (List Run)
  /-- Whether the run satisfies the condition. -/
  runMatches : Run → Predicate → StoreStep σ Bool
  /-- The runs with the given identifiers that satisfy the condition, in increasing order. -/
  matchingIds : List Uuid → Predicate → StoreStep σ (List Uuid)
  insertResult : Score → StoreStep σ Unit

end RunRadar
