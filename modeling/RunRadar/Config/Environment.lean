import RunRadar.Config.Basic
import RunRadar.Number.Reading
import RunRadar.Text.Case

/-!
# RunRadar.Config.Environment

Configurations **from the environment**. A profile has variables of its own, whose names
begin with the name of the profile; where there is none, or an empty one, the variable without
that beginning counts. Values that do not read leave the default in place.
-/

namespace RunRadar

/-- The values of variables. -/
abbrev Environment := String → Option String

namespace Environment

/-- The environment of the given variables. -/
def ofList (pairs : List (String × String)) : Environment := fun key =>
  List.lookup key pairs

/-- A variable, unless it is empty. -/
def nonEmpty? (env : Environment) (key : String) : Option String :=
  match env key with
  | some "" => none
  | value => value

/-- A variable for a profile. -/
def profiled? (env : Environment) (profile key : String) : Option String :=
  if profile = "" then env.nonEmpty? key
  else
    match env.nonEmpty? (profile ++ "_" ++ key) with
    | some value => some value
    | none => env.nonEmpty? key

/-- A natural number below a bound, for a profile. -/
def number (env : Environment) (profile key : String) (bound default : Nat) : Nat :=
  ((env.profiled? profile key).bind (readNat? bound)).getD default

end Environment

/-- The database that the environment names. -/
def DatabaseSettings.ofEnvironment (env : Environment) (profile : String) : DatabaseSettings :=
  let defaults : DatabaseSettings := {}
  { url := env.profiled? profile "PG_URL"
    host := (env.profiled? profile "PG_HOST").getD defaults.host
    port := env.number profile "PG_PORT" UInt16.size defaults.port
    database := (env.profiled? profile "PG_DATABASE").getD defaults.database
    user := env.profiled? profile "PG_USERNAME"
    password := env.profiled? profile "PG_PASSWORD"
    sslMode := (env.profiled? profile "PG_SSL_MODE").getD defaults.sslMode
    maxConnections := env.number profile "PG_MAX_CONNECTIONS" UInt32.size defaults.maxConnections }

/-- The way of scanning that the environment names. -/
def ScanSettings.ofEnvironment (env : Environment) (profile : String) : ScanSettings :=
  let defaults : ScanSettings := {}
  { batchSize := env.number profile "RADAR_BATCH_SIZE" UInt32.size defaults.batchSize
    interval := env.number profile "RADAR_SCAN_INTERVAL_SECS" UInt64.size defaults.interval }

namespace Config

/-- The configuration of a profile. -/
def forProfile (env : Environment) (profile : String) : Config :=
  let profile := Text.toUpper profile
  { profile
    database := .ofEnvironment env profile
    scan := .ofEnvironment env profile }

/-- The names of all variables that the configuration of a profile looks at. -/
def variableNames (profile : String) : List String :=
  let keys :=
    ["PG_URL", "PG_HOST", "PG_PORT", "PG_DATABASE", "PG_USERNAME", "PG_PASSWORD", "PG_SSL_MODE",
      "PG_MAX_CONNECTIONS", "RADAR_BATCH_SIZE", "RADAR_SCAN_INTERVAL_SECS"]
  "RADAR_PROFILE" :: keys ++ keys.map fun key => Text.toUpper profile ++ "_" ++ key

/-- The configuration of the profile that the environment names. -/
def ofEnvironment (env : Environment) : Config :=
  forProfile env (Text.toUpper ((env "RADAR_PROFILE").getD ""))

end Config

end RunRadar
