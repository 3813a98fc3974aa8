import RunRadar.Config.Environment
import RunRadar.Filter.Catalog
import RunRadar.Scan.Schedule
import RunRadar.Store.Connection
import RunRadar.Worker.Command

/-!
# RunRadar.Worker.Basic

The **worker**: it reads its command line and its configuration, connects to the database,
and scans, once or on a schedule until it is told to stop.
-/

namespace RunRadar.Worker

/-- How a worker ends, and what it has done. -/
structure Exit where
  code : UInt32
  /-- The configuration it was asked to print. -/
  printed : Option Json := none
  /-- Why it failed. -/
  error : Option String := none
  migrated : List Migration := []
  sent : List Sql.Statement := []
  log : List LogEvent := []

namespace Exit

/-- There was nothing to complain about. -/
def success : Exit := { code := 0 }

/-- The worker failed. -/
def failure (message : String) : Exit := { code := 1, error := some message }

/-- The command line could not be read. -/
def misuse : Exit := { code := 2 }

end Exit

/-- Options win over the configuration. -/
def Options.apply (options : Options) (config : Config) : Config :=
  { config with
    scan :=
      { batchSize := options.batchSize.getD config.scan.batchSize
        interval := options.interval.getD config.scan.interval } }

/-- What a worker scans with. -/
def scanner (config : Config) : Scanner Session :=
  ⟨Session.storage, .builtin, config.scan.batchSize, .remoteStorage⟩

/-- Scans over an open session. The shutdown is given in milliseconds from the start. -/
def scanOver (options : Options) (config : Config) (shutdown : Nat) :
    Action Session (Except ScanError Unit) :=
  if options.once then do
    return (← (scanner config).scan).map fun _ => ()
  else do
    (scanner config).runUntil (config.scan.interval * 1000) shutdown
    return .ok ()

/-- Works on what a connection has come to. -/
def workOn (connection : Connection) (options : Options) (config : Config) (shutdown : Nat) :
    Exit :=
  match connection.result with
  | .error e => { Exit.failure e.message with
      migrated := connection.migrated, log := connection.log }
  | .ok session =>
    let (result, engine) := scanOver options config shutdown (Engine.start session)
    let exit := match result with
      | .ok () => Exit.success
      | .error e => Exit.failure e.message
    { exit with
      migrated := connection.migrated
      sent := engine.store.sent
      log := connection.log ++ engine.log }

/-- Works by a configuration. -/
def work (options : Options) (config : Config) (server : Option Server) (shutdown : Nat) : Exit :=
  match config.validate with
  | .error e => .failure e.message
  | .ok () =>
    if options.printConfig then { Exit.success with printed := some config.summary }
    else
      let exit := workOn (.establish config.database server) options config shutdown
      { exit with log := config.logLines ++ exit.log }

/-- Runs a worker in an environment, with the given server in reach. -/
def run (arguments : List String) (env : Environment) (server : Option Server)
    (shutdown : Nat) : Exit :=
  match Command.read arguments with
  | .error _ => .misuse
  | .ok .help => .success
  | .ok .version => .success
  | .ok (.work options) => work options (options.apply (.ofEnvironment env)) server shutdown

end RunRadar.Worker
