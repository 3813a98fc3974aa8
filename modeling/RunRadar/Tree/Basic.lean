import RunRadar.Json.Basic

/-!
# RunRadar.Tree.Basic

**Rule trees**: Boolean expressions over named filters. The scope of a radar (which runs it
looks at) and its checks (which of them pass) have the same grammar. A node joins operands
with AND or OR, or calls a filter, or is the identity of a connective: true for AND, false
for OR.
-/

namespace RunRadar

/-- How a node joins its operands. -/
inductive Connective
  | and
  | or
deriving DecidableEq

namespace Connective

/-- The word that stands for a connective in a written tree. -/
def word : Connective → String
  | .and => "AND"
  | .or => "OR"

/-- The connective that a word stands for. -/
def ofWord? (word : String) : Option Connective :=
  if word = "AND" then some .and else if word = "OR" then some .or else none

/-- The value of the connective over no operands. -/
def identity : Connective → Bool
  | .and => true
  | .or => false

@[simp] theorem ofWord?_word (op : Connective) : ofWord? op.word = some op := by
  cases op <;> decide

theorem word_of_ofWord? {word : String} {op : Connective} (h : ofWord? word = some op) :
    op.word = word := by
  unfold ofWord? at h
  split at h
  · next hw => cases h; exact hw.symm
  · split at h
    · next hw => cases h; exact hw.symm
    · cases h

end Connective

/-- A call of the filter named `id`. -/
structure Leaf where
  id : String
  params : Json.Object
deriving DecidableEq

/-- A rule tree. -/
inductive Tree
  | combine (op : Connective) (operands : List Tree)
  | leaf (leaf : Leaf)
  | identity (op : Connective)

namespace Tree

mutual
/-- Decides equality of trees. -/
def decEq : (s t : Tree) → Decidable (s = t)
  | .combine op as, .combine op' bs =>
    if h : op = op' then
      match decEqOperands as bs with
      | isTrue h' => isTrue (by simp [h, h'])
      | isFalse h' => isFalse (by simp [h'])
    else isFalse (by simp [h])
  | .leaf l, .leaf l' => if h : l = l' then isTrue (h ▸ rfl) else isFalse (by simp [h])
  | .identity op, .identity op' =>
    if h : op = op' then isTrue (h ▸ rfl) else isFalse (by simp [h])
  | .combine .., .leaf _ | .combine .., .identity _ => isFalse (by simp)
  | .leaf _, .combine .. | .leaf _, .identity _ => isFalse (by simp)
  | .identity _, .combine .. | .identity _, .leaf _ => isFalse (by simp)
/-- Decides equality of lists of operands. -/
def decEqOperands : (as bs : List Tree) → Decidable (as = bs)
  | [], [] => isTrue rfl
  | a :: as, b :: bs =>
    match a.decEq b, decEqOperands as bs with
    | isTrue h, isTrue h' => isTrue (by simp [h, h'])
    | isFalse h, _ => isFalse (by simp [h])
    | _, isFalse h => isFalse (by simp [h])
  | [], _ :: _ => isFalse (by simp)
  | _ :: _, [] => isFalse (by simp)
end

instance : DecidableEq Tree := decEq

/-- The tree that selects everything: AND of no operands. -/
def everything : Tree := .combine .and []

instance : Inhabited Tree := ⟨everything⟩

/-- The leaf with the given params. Params that are no object count as none. -/
def leafOf (id : String) (params : Json) : Tree :=
  match params with
  | .object fields => .leaf ⟨id, fields⟩
  | _ => .leaf ⟨id, .nil⟩

mutual
/-- The leaves, depth first and from left to right. -/
def leaves : Tree → List Leaf
  | .combine _ operands => leavesAll operands
  | .leaf l => [l]
  | .identity _ => []
/-- The leaves of all operands. -/
def leavesAll : List Tree → List Leaf
  | [] => []
  | t :: ts => t.leaves ++ leavesAll ts
end

theorem leavesAll_eq_flatMap (ts : List Tree) : leavesAll ts = ts.flatMap leaves := by
  induction ts with
  | nil => rfl
  | cons t ts ih => simp [leavesAll, ih]

/-- The leaves of a node are those of its operands in their order. -/
@[simp] theorem leaves_combine (op : Connective) (operands : List Tree) :
    (combine op operands).leaves = operands.flatMap leaves := by
  simp [leaves, leavesAll_eq_flatMap]

end Tree

end RunRadar
