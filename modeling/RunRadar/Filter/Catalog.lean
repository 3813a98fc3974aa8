import RunRadar.Filter.Registry
import RunRadar.Filter.Scanned
import RunRadar.Filter.Stored

/-!
# RunRadar.Filter.Catalog

The **built-in filters**, those that storage decides before those that look through texts.
-/

namespace RunRadar.Registry

/-- The built-in filters. -/
def catalog : List Filter := Filter.Stored.filters ++ Filter.Scanned.filters

/-- The registry of the built-in filters. -/
def builtin : Registry := .ofList catalog

end RunRadar.Registry
