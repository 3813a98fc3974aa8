import RunRadar.Worker.Command

/-!
# RunRadar.Worker.Usage

What the worker says **about itself**.
-/

namespace RunRadar.Worker

/-- The name and the version. -/
def versionText : String := "radar-worker 0.1.0"

/-- How the worker is called. -/
def helpText : String :=
  "\n".intercalate
    ["Radar scan worker",
     "",
     "Usage: radar-worker [OPTIONS]",
     "",
     "Options:",
     "      --interval <INTERVAL>      Seconds between scan passes (overrides " ++
       "RADAR_SCAN_INTERVAL_SECS)",
     "      --batch-size <BATCH_SIZE>  Runs fetched per radar per pass (overrides " ++
       "RADAR_BATCH_SIZE)",
     "      --once                     Run a single pass and exit",
     "      --print-config             Print the resolved configuration (secrets redacted) " ++
       "and exit",
     "  -h, --help                     Print help",
     "  -V, --version                  Print version"]

/-- What is said about a command line that cannot be read. -/
def UsageError.report (e : UsageError) : String :=
  "error: " ++ e.message ++ "\n\nUsage: radar-worker [OPTIONS]\n\n" ++
    "For more information, try '--help'."

end RunRadar.Worker
