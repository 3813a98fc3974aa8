/-!
# RunRadar.Store.Error

What can go **wrong in storage**.
-/

namespace RunRadar

/-- What went wrong between the engine and its database. -/
inductive DatabaseFault
  /-- The server answered a statement with an error. -/
  | refused (text : String)
  /-- There was no usable answer: no connection, no row, or no value where one is needed. -/
  | unusable
deriving DecidableEq

def DatabaseFault.message : DatabaseFault → String
  | .refused text => "database error: error returned from database: " ++ text
  | .unusable => "database error"

/-- The collections of a store in memory. -/
inductive Collection
  | radars
  | runs
  | results
deriving DecidableEq

def Collection.name : Collection → String
  | .radars => "radars"
  | .runs => "runs"
  | .results => "results"

/-- Why storage has no answer. -/
inductive StoreError
  | database (fault : DatabaseFault)
  | migration
  /-- A writer died while it held a collection of a store in memory. -/
  | poisoned (collection : Collection)
deriving DecidableEq

def StoreError.message : StoreError → String
  | .database fault => fault.message
  | .migration => "migration error"
  | .poisoned collection => "in-memory " ++ collection.name ++ " lock poisoned"

end RunRadar
