import RunRadar.Filter.Registry
import RunRadar.Tree.Basic
import RunRadar.Tree.CompileError

/-!
# RunRadar.Tree.Compile

Trees as **storage conditions**. A tree compiles when storage can decide all of its leaves;
the first leaf that it cannot decide is the one reported. A filter that is not registered is
a condition that always holds.
-/

namespace RunRadar

namespace Leaf

/-- The storage condition of a leaf. -/
def compile (registry : Registry) (leaf : Leaf) : Except CompileError Predicate :=
  match registry.lookup? leaf.id with
  | none => .ok .always
  | some filter =>
    match filter.predicate? leaf.params with
    | none => .error (.notPushdown leaf.id)
    | some (.error e) => .error (.params e)
    | some (.ok p) => .ok p

/-- Whether the filter of a leaf is decided by an evaluator alone. -/
def needsEvaluator (registry : Registry) (leaf : Leaf) : Bool :=
  (registry.lookup? leaf.id).any fun filter => !filter.isPushdown

end Leaf

namespace Tree

/-- The condition that is always true, or always false. -/
def constant (value : Bool) : Predicate := if value then .always else .never

/-- Conditions joined by a connective. -/
def joinPredicates : Connective → List Predicate → Predicate
  | .and => .all
  | .or => .any

mutual
/-- The storage condition of a tree. -/
def compile (registry : Registry) : Tree → Except CompileError Predicate
  | .identity op => .ok (constant op.identity)
  | .leaf l => l.compile registry
  | .combine op operands =>
    match compileAll registry operands with
    | .error e => .error e
    | .ok parts => .ok (joinPredicates op parts)
/-- The storage conditions of operands, or the first error among them. -/
def compileAll (registry : Registry) : List Tree → Except CompileError (List Predicate)
  | [] => .ok []
  | t :: ts =>
    match compile registry t with
    | .error e => .error e
    | .ok p =>
      match compileAll registry ts with
      | .error e => .error e
      | .ok ps => .ok (p :: ps)
end

mutual
/-- Whether some leaf is decided by an evaluator alone. -/
def needsEvaluator (registry : Registry) : Tree → Bool
  | .identity _ => false
  | .leaf l => l.needsEvaluator registry
  | .combine _ operands => anyNeedsEvaluator registry operands
/-- Whether some leaf of some operand is. -/
def anyNeedsEvaluator (registry : Registry) : List Tree → Bool
  | [] => false
  | t :: ts => needsEvaluator registry t || anyNeedsEvaluator registry ts
end

mutual
/-- The leaves tell whether an evaluator is needed. -/
theorem needsEvaluator_eq_any (registry : Registry) :
    (t : Tree) → needsEvaluator registry t = t.leaves.any (Leaf.needsEvaluator registry)
  | .identity _ => rfl
  | .leaf _ => by simp [needsEvaluator, leaves]
  | .combine _ operands => by
    simp only [needsEvaluator, leaves]
    exact anyNeedsEvaluator_eq_any registry operands
theorem anyNeedsEvaluator_eq_any (registry : Registry) :
    (ts : List Tree) →
      anyNeedsEvaluator registry ts = (leavesAll ts).any (Leaf.needsEvaluator registry)
  | [] => rfl
  | t :: ts => by
    simp [anyNeedsEvaluator, leavesAll, needsEvaluator_eq_any registry t,
      anyNeedsEvaluator_eq_any registry ts]
end

end Tree

end RunRadar
