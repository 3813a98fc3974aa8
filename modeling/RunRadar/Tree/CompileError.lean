import RunRadar.Filter.Params

/-!
# RunRadar.Tree.CompileError

Why a tree is **no single storage condition**.
-/

namespace RunRadar

/-- Why a tree does not compile. -/
inductive CompileError
  /-- The filter is decided by an evaluator alone. -/
  | notPushdown (filter : String)
  | params (fault : ParamError)
deriving DecidableEq

def CompileError.message : CompileError → String
  | .notPushdown filter =>
    "filter `" ++ filter ++ "` has no pushdown form and needs per-run evaluation"
  | .params fault => fault.message

end RunRadar
