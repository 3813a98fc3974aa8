import Mathlib.Data.List.Forall2
import RunRadar.Tree.Basic

/-!
# RunRadar.Proofs.Tree.Value

The **Boolean value** of a tree, once every leaf has a truth value. A tree may call the same
filter in several places, with the same params, so truth values belong to the *occurrences* of
leaves: an assignment gives one to each place of the tree. A place is the list of the operands
that lead to it from the root.

Nothing here knows how leaves are decided. That the evaluators of the engine compute this value
is shown elsewhere.
-/

namespace RunRadar

namespace Connective

/-- The connective over truth values. -/
def join : Connective → List Bool → Bool
  | .and, vs => vs.all id
  | .or, vs => vs.any id

/-- Over no values, the connective is its identity. -/
@[simp] theorem join_nil (op : Connective) : op.join [] = op.identity := by
  cases op <;> rfl

/-- Over one value, both connectives are that value. -/
@[simp] theorem join_singleton (op : Connective) (v : Bool) : op.join [v] = v := by
  cases op <;> simp [join]

/-- An operand that is the identity does not count. -/
theorem join_cons_identity (op : Connective) (vs : List Bool) :
    op.join (op.identity :: vs) = op.join vs := by
  cases op <;> simp [join, identity]

/-- An operand that is not the identity decides. -/
theorem join_cons_of_ne {op : Connective} {v : Bool} (h : v ≠ op.identity) (vs : List Bool) :
    op.join (v :: vs) = v := by
  cases op <;> cases v <;> simp_all [join, identity]

end Connective

namespace Tree

/-! ### Induction over operands -/

mutual
/-- What holds of a node whenever it holds of its operands holds of every tree. -/
@[elab_as_elim] theorem operand_induction {motive : Tree → Prop}
    (identity : ∀ op, motive (.identity op)) (leaf : ∀ l, motive (.leaf l))
    (combine : ∀ op ts, (∀ t ∈ ts, motive t) → motive (.combine op ts)) :
    ∀ t : Tree, motive t
  | .identity op => identity op
  | .leaf l => leaf l
  | .combine op ts => combine op ts (operands_induction identity leaf combine ts)
theorem operands_induction {motive : Tree → Prop}
    (identity : ∀ op, motive (.identity op)) (leaf : ∀ l, motive (.leaf l))
    (combine : ∀ op ts, (∀ t ∈ ts, motive t) → motive (.combine op ts)) :
    ∀ ts : List Tree, ∀ t ∈ ts, motive t
  | [], _, ht => absurd ht List.not_mem_nil
  | t :: ts, s, hs => by
      rcases List.mem_cons.mp hs with h | h
      · exact h ▸ operand_induction identity leaf combine t
      · exact operands_induction identity leaf combine ts s h
end

/-! ### Occurrences of leaves -/

/-- A place in a tree: which operand to take, at every node on the way from the root. -/
abbrev Place := List Nat

/-- The leaf at a place. -/
def leafAt? : Tree → Place → Option Leaf
  | .leaf l, [] => some l
  | .combine _ operands, i :: place =>
    match operands[i]? with
    | some t => t.leafAt? place
    | none => none
  | _, _ => none

@[simp] theorem leafAt?_combine_cons (op : Connective) (ts : List Tree) (i : Nat)
    (place : Place) : (combine op ts).leafAt? (i :: place) = ts[i]?.bind (·.leafAt? place) := by
  cases h : ts[i]? <;> simp [leafAt?, h]

/-! ### Values -/

/-- Truth values for the leaves of a tree, by their places. -/
abbrev Assignment := Place → Bool

/-- What an assignment for a node gives to its operand of some number. -/
def Assignment.operand (α : Assignment) (i : Nat) : Assignment := fun place => α (i :: place)

mutual
/-- The Boolean value of a tree: all of the operands for AND, any of them for OR. -/
def value (α : Assignment) : Tree → Bool
  | .identity op => op.identity
  | .leaf _ => α []
  | .combine op operands => op.join (values α 0 operands)
/-- The Boolean values of operands, numbered from `i` on. -/
def values (α : Assignment) (i : Nat) : List Tree → List Bool
  | [] => []
  | t :: ts => t.value (α.operand i) :: values α (i + 1) ts
end

/-- A relation between every operand and its value relates the operands to the values. -/
theorem forall₂_values {R : Tree → Bool → Prop} {α : Assignment} {i : Nat} {ts : List Tree}
    (h : ∀ k t, ts[k]? = some t → R t (t.value (α.operand (i + k)))) :
    List.Forall₂ R ts (values α i ts) := by
  induction ts generalizing i with
  | nil => exact .nil
  | cons t ts ih =>
      refine .cons (h 0 t rfl) (ih fun k s hs => ?_)
      have hk := h (k + 1) s hs
      rwa [show i + (k + 1) = i + 1 + k by omega] at hk

end Tree

end RunRadar
