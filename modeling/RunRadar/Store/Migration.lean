import RunRadar.Store.Error

/-!
# RunRadar.Store.Migration

The **migrations** of the database: numbered changes of its tables, each of which is applied
once. Before anything is applied, what the database says it has applied has to fit the
migrations that there are.
-/

namespace RunRadar

/-- A change of the tables. -/
structure Migration where
  version : Nat
  description : String
deriving DecidableEq

/-- A migration that a database says it has applied. -/
structure AppliedMigration where
  version : Nat
  /-- It was the same change. -/
  unchanged : Bool := true
  /-- It went through to its end. -/
  complete : Bool := true
deriving DecidableEq

namespace Migration

/-- The migrations of the tables for runs, radars and results. -/
def all : List Migration := [⟨1, "radar"⟩]

/-- Whether a database has applied a migration. -/
def isApplied (applied : List AppliedMigration) (m : Migration) : Bool :=
  applied.any (·.version = m.version)

/-- Whether what a database has applied is one of the migrations, unchanged and complete. -/
def fits (migrations : List Migration) (done : AppliedMigration) : Bool :=
  done.unchanged && done.complete && migrations.any (·.version = done.version)

/-- The migrations that are still to be applied. -/
def pending (migrations : List Migration) (applied : List AppliedMigration) :
    Except StoreError (List Migration) :=
  if applied.all (fits migrations) then
    .ok (migrations.filter fun m => !isApplied applied m)
  else .error .migration

end Migration

end RunRadar
