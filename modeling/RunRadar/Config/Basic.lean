import RunRadar.Engine.Event
import RunRadar.Json.Record

/-!
# RunRadar.Config.Basic

The **configuration** of a worker: which database it works on, and how often and in which
portions it scans.
-/

namespace RunRadar

/-- How a worker scans. -/
structure ScanSettings where
  /-- How many runs are fetched at most, for each radar in each pass. -/
  batchSize : Nat := 1000
  /-- Seconds between passes. -/
  interval : Nat := 60
deriving DecidableEq

/-- The database a worker works on. -/
structure DatabaseSettings where
  /-- The whole address. If it is there, the parts of the address do not matter. -/
  url : Option String := none
  host : String := "localhost"
  port : Nat := 5432
  database : String := "radar"
  user : Option String := none
  password : Option String := none
  sslMode : String := "prefer"
  maxConnections : Nat := 10
deriving DecidableEq

/-- A configuration. -/
structure Config where
  /-- The name of the profile, in upper case. The default profile has an empty name. -/
  profile : String := ""
  database : DatabaseSettings := {}
  scan : ScanSettings := {}
deriving DecidableEq

/-! ### Databases -/

namespace DatabaseSettings

/-- The address of the database. -/
def address (s : DatabaseSettings) : String :=
  match s.url with
  | some url => url
  | none =>
    "postgres://" ++ s.user.getD "postgres" ++ ":" ++ s.password.getD "" ++ "@" ++ s.host ++
      ":" ++ toString s.port ++ "/" ++ s.database ++ "?sslmode=" ++ s.sslMode

/-- Whether anybody has said which database it is. -/
def isConfigured (s : DatabaseSettings) : Bool := s.url.isSome || s.user.isSome

/-- The names of the parts, in their order. -/
def partNames : List String :=
  ["url", "host", "port", "database", "username", "password", "ssl_mode", "max_connections"]

/-- The settings that a JSON value stands for. -/
def ofJson? (value : Json) : Option DatabaseSettings := do
  let parts ← value.parts? partNames partNames.length
  let url ← parts.optional "url" Json.asText?
  let host ← parts.required "host" Json.asText?
  let port ← parts.required "port" (Json.asInt? 0 UInt16.size)
  let database ← parts.required "database" Json.asText?
  let user ← parts.optional "username" Json.asText?
  let password ← parts.optional "password" Json.asText?
  let sslMode ← parts.required "ssl_mode" Json.asText?
  let maxConnections ← parts.required "max_connections" (Json.asInt? 0 UInt32.size)
  return { url, host, database, user, password, sslMode
           port := port.toNat, maxConnections := maxConnections.toNat }

def toJson (s : DatabaseSettings) : Json :=
  .ofMembers
    [("url", .ofOption .string s.url),
     ("host", .string s.host),
     ("port", .ofInt s.port),
     ("database", .string s.database),
     ("username", .ofOption .string s.user),
     ("password", .ofOption .string s.password),
     ("ssl_mode", .string s.sslMode),
     ("max_connections", .ofInt s.maxConnections)]

end DatabaseSettings

/-! ### Scans -/

def ScanSettings.toJson (s : ScanSettings) : Json :=
  .ofMembers [("batch_size", .ofInt s.batchSize), ("interval_secs", .ofInt s.interval)]

/-! ### Configurations -/

/-- A value that no worker can work with. -/
structure ConfigError where
  key : String
  value : String
deriving DecidableEq

def ConfigError.message (e : ConfigError) : String :=
  "Invalid config value for " ++ e.key ++ ": " ++ e.value

namespace Config

/-- The name of the profile, also of the default one. -/
def label (c : Config) : String := if c.profile = "" then "default" else c.profile

/-- Portions and intervals have to be positive. -/
def validate (c : Config) : Except ConfigError Unit :=
  if c.scan.batchSize = 0 then .error ⟨"RADAR_BATCH_SIZE", "0"⟩
  else if c.scan.interval = 0 then .error ⟨"RADAR_SCAN_INTERVAL_SECS", "0"⟩
  else .ok ()

def toJson (c : Config) : Json :=
  .ofMembers
    [("profile", .string c.profile), ("postgres", c.database.toJson), ("scan", c.scan.toJson)]

/-- What may be shown of a configuration: nothing that is secret. -/
def summary (c : Config) : Json :=
  .ofMembers
    [("profile", .string c.label),
     ("postgres", .ofMembers
       [("host", .string c.database.host),
        ("port", .ofInt c.database.port),
        ("database", .string c.database.database),
        ("configured", .bool c.database.isConfigured)]),
     ("scan", c.scan.toJson)]

/-- The summary as lines of the log. -/
def logLines (c : Config) : List LogEvent :=
  [.setting ("Config loaded (profile: " ++ c.label ++ "):"),
   .setting ("  postgres:    host=" ++ c.database.host ++ ", db=" ++ c.database.database),
   .setting ("  scan:        batch_size=" ++ toString c.scan.batchSize ++ ", interval=" ++
     toString c.scan.interval ++ "s")]

end Config

end RunRadar
