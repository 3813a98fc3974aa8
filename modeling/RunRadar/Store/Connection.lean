import RunRadar.Config.Basic
import RunRadar.Store.Migration
import RunRadar.Store.Session

/-!
# RunRadar.Store.Connection

**Connecting** to a database: finding the server, and bringing its tables up to date.
-/

namespace RunRadar

/-- A server that can be reached. -/
structure Server where
  address : String
  /-- What it says it has applied. -/
  applied : List AppliedMigration
  /-- What it is going to say. -/
  replies : List Reply

/-- What connecting comes to. -/
structure Connection where
  result : Except StoreError Session
  /-- The migrations applied meanwhile. -/
  migrated : List Migration
  log : List LogEvent

namespace Connection

/-- Nobody answers at the address. -/
def failed : Connection := ⟨.error (.database .unusable), [], []⟩

/-- Brings the tables of a server up to date. -/
def update (settings : DatabaseSettings) (server : Server) : Connection :=
  let connected := .connected settings.host settings.database
  match Migration.pending Migration.all server.applied with
  | .error e => ⟨.error e, [], [connected]⟩
  | .ok migrations => ⟨.ok { replies := server.replies }, migrations, [connected, .migrated]⟩

/-- Connects to the server that the settings name, if it can be reached and there may be
connections at all. -/
def establish (settings : DatabaseSettings) (server? : Option Server) : Connection :=
  match server? with
  | none => failed
  | some server =>
    if server.address = settings.address ∧ 0 < settings.maxConnections then
      update settings server
    else failed

end Connection

end RunRadar
