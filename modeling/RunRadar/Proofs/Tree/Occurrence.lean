import RunRadar.Proofs.Tree.Value

/-!
# RunRadar.Proofs.Tree.Occurrence

The **occurrences of leaves** in a tree, one after the other. A tree may call the same filter with
the same params in several places, so an occurrence is a leaf together with its place. Document
order is the lexicographic order of places.
-/

namespace RunRadar

namespace Tree

/-- A leaf at a place. -/
structure Occurrence where
  place : Place
  leaf : Leaf
deriving DecidableEq

/-- An occurrence in the operand of some number, as one in the node. -/
def Occurrence.under (i : Nat) (o : Occurrence) : Occurrence := ⟨i :: o.place, o.leaf⟩

@[simp] theorem Occurrence.place_under (i : Nat) (o : Occurrence) :
    (o.under i).place = i :: o.place := rfl

mutual
/-- The occurrences of leaves in a tree, in document order. -/
def occurrences : Tree → List Occurrence
  | .identity _ => []
  | .leaf l => [⟨[], l⟩]
  | .combine _ operands => occurrencesAll 0 operands
/-- The occurrences of leaves in operands that are numbered from `i` on. -/
def occurrencesAll (i : Nat) : List Tree → List Occurrence
  | [] => []
  | t :: ts => t.occurrences.map (.under i) ++ occurrencesAll (i + 1) ts
end

@[simp] theorem occurrences_combine (op : Connective) (ts : List Tree) :
    (combine op ts).occurrences = occurrencesAll 0 ts := rfl

/-- The occurrences in operands are those in each of them. -/
theorem mem_occurrencesAll_iff {i : Nat} {ts : List Tree} {o : Occurrence} :
    o ∈ occurrencesAll i ts ↔
      ∃ (k : Nat) (t : Tree), ts[k]? = some t ∧ ∃ o' ∈ t.occurrences, o = o'.under (i + k) := by
  induction ts generalizing i with
  | nil => simp [occurrencesAll]
  | cons t ts ih =>
      rw [occurrencesAll, List.mem_append, ih, List.mem_map]
      constructor
      · rintro (⟨o', ho', rfl⟩ | ⟨k, s, hk, o', ho', rfl⟩)
        · exact ⟨0, t, rfl, o', ho', rfl⟩
        · exact ⟨k + 1, s, hk, o', ho', by rw [Nat.add_assoc, Nat.add_comm 1]⟩
      · rintro ⟨k, s, hk, o', ho', rfl⟩
        cases k with
        | zero =>
            obtain rfl : t = s := Option.some.inj hk
            exact .inl ⟨o', ho', rfl⟩
        | succ k => exact .inr ⟨k, s, hk, o', ho', by rw [Nat.add_assoc, Nat.add_comm 1]⟩

/-- The leaves that occur are the leaves of the tree, in their order. -/
theorem map_leaf_occurrences (t : Tree) : t.occurrences.map Occurrence.leaf = t.leaves := by
  induction t using operand_induction with
  | identity op => rfl
  | leaf l => rfl
  | combine op ts ih =>
      suffices h : ∀ i, (occurrencesAll i ts).map Occurrence.leaf = ts.flatMap leaves by
        rw [occurrences_combine, h 0, leaves_combine]
      induction ts with
      | nil => exact fun i => rfl
      | cons t ts ihs =>
          intro i
          have htail := ihs (fun s hs => ih s (List.mem_cons_of_mem _ hs)) (i + 1)
          have hunder : Occurrence.leaf ∘ Occurrence.under i = Occurrence.leaf := rfl
          rw [occurrencesAll, List.map_append, htail, List.map_map, hunder,
            ih t List.mem_cons_self, List.flatMap_cons]

/-- Occurrences come in document order, no two of them at the same place. -/
theorem occurrences_increase (t : Tree) : t.occurrences.Pairwise (·.place < ·.place) := by
  induction t using operand_induction with
  | identity op => exact .nil
  | leaf l => exact List.pairwise_singleton _ _
  | combine op ts ih =>
      suffices h : ∀ i, (occurrencesAll i ts).Pairwise (·.place < ·.place) from h 0
      induction ts with
      | nil => exact fun i => .nil
      | cons t ts ihs =>
          intro i
          rw [occurrencesAll, List.pairwise_append]
          refine ⟨?_, ihs (fun s hs => ih s (List.mem_cons_of_mem _ hs)) (i + 1), ?_⟩
          · rw [List.pairwise_map]
            exact (ih t List.mem_cons_self).imp fun h => by simpa using h
          · intro o ho o' ho'
            obtain ⟨o, -, rfl⟩ := List.mem_map.mp ho
            obtain ⟨k, s, -, o', -, rfl⟩ := mem_occurrencesAll_iff.mp ho'
            rw [Occurrence.place_under, Occurrence.place_under, List.cons_lt_cons_iff]
            exact .inl (by omega)

/-! ### Nodes -/

/-- The node at a place. -/
def nodeAt? : Tree → Place → Option Tree
  | t, [] => some t
  | .combine _ operands, i :: place =>
    match operands[i]? with
    | some t => t.nodeAt? place
    | none => none
  | _, _ :: _ => none

@[simp] theorem nodeAt?_nil (t : Tree) : t.nodeAt? [] = some t := by
  cases t <;> rfl

@[simp] theorem nodeAt?_combine_cons (op : Connective) (ts : List Tree) (i : Nat)
    (place : Place) : (combine op ts).nodeAt? (i :: place) = ts[i]?.bind (·.nodeAt? place) := by
  cases h : ts[i]? <;> simp [nodeAt?, h]

end Tree

end RunRadar
