import RunRadar.Outcome.Json
import RunRadar.Proofs.Json.Value

/-!
# RunRadar.Proofs.Outcome.ReadBack

Stored outcomes, **read back**. The stored form does not tell the two kinds of details apart: null
and details that read as a list of outcomes are taken for something else than an evaluator's. These
are the only ones that do not come back, so an outcome comes back exactly when no node of it has
such details (`Outcome.ofJson?_toJson_iff_readable`).

The reader may take a node of an evaluator for operands, but never operands for anything else:
whatever the operands come to, a list of them is read as a list.
-/

namespace RunRadar

namespace Outcome

/-! ### Nodes -/

mutual
/-- The nodes of an outcome: itself, and those of its operands. -/
def nodes : Outcome → List Outcome
  | .mk passed filter none => [.mk passed filter none]
  | .mk passed filter (some details) =>
    .mk passed filter (some details) :: nodesOfDetails details
/-- The nodes of operands in details. -/
def nodesOfDetails : Details → List Outcome
  | .operands outcomes => nodesAll outcomes
  | .evaluator _ => []
/-- The nodes of some outcomes. -/
def nodesAll : List Outcome → List Outcome
  | [] => []
  | o :: os => o.nodes ++ nodesAll os
end

theorem nodesAll_eq_flatMap (os : List Outcome) : nodesAll os = os.flatMap nodes := by
  induction os with
  | nil => rfl
  | cons o os ih => rw [nodesAll, ih, List.flatMap_cons]

mutual
/-- What holds of outcomes without operands, and of those over operands whenever it holds of the
operands, holds of every outcome. -/
@[elab_as_elim] theorem operand_induction {motive : Outcome → Prop}
    (plain : ∀ passed filter, motive (.mk passed filter none))
    (evaluator : ∀ passed filter value, motive (.mk passed filter (some (.evaluator value))))
    (operands : ∀ passed filter os, (∀ o ∈ os, motive o) →
      motive (.mk passed filter (some (.operands os)))) :
    ∀ o : Outcome, motive o
  | .mk passed filter none => plain passed filter
  | .mk passed filter (some (.evaluator value)) => evaluator passed filter value
  | .mk passed filter (some (.operands os)) =>
      operands passed filter os (operands_induction plain evaluator operands os)
theorem operands_induction {motive : Outcome → Prop}
    (plain : ∀ passed filter, motive (.mk passed filter none))
    (evaluator : ∀ passed filter value, motive (.mk passed filter (some (.evaluator value))))
    (operands : ∀ passed filter os, (∀ o ∈ os, motive o) →
      motive (.mk passed filter (some (.operands os)))) :
    ∀ os : List Outcome, ∀ o ∈ os, motive o
  | [], _, ho => absurd ho List.not_mem_nil
  | o :: os, o', ho' => by
      rcases List.mem_cons.mp ho' with h | h
      · exact h ▸ operand_induction plain evaluator operands o
      · exact operands_induction plain evaluator operands os o' h
end

/-! ### Details that are told apart -/

/-- The list of outcomes that a JSON value stands for. -/
def listOfJson? : Json → Option (List Outcome)
  | .array items => ofJsonAll? items
  | _ => none

/-- The details of a node, if they are an evaluator's, are neither null nor a list of outcomes. -/
def IsToldApart (o : Outcome) : Prop :=
  ∀ value, o.details = some (.evaluator value) → value ≠ .null ∧ listOfJson? value = none

/-- No node of an outcome has details that read as something else. -/
def Readable (o : Outcome) : Prop := ∀ node ∈ o.nodes, node.IsToldApart

theorem readable_plain (passed : Bool) (filter : Option String) :
    (mk passed filter none).Readable := by
  intro node hnode value h
  obtain rfl := List.mem_singleton.mp hnode
  cases h

theorem readable_evaluator {passed : Bool} {filter : Option String} {value : Json} :
    (mk passed filter (some (.evaluator value))).Readable ↔
      value ≠ .null ∧ listOfJson? value = none := by
  constructor
  · intro h
    exact h _ (List.mem_singleton_self _) value rfl
  · intro h node hnode value' hvalue
    obtain rfl := List.mem_singleton.mp hnode
    cases hvalue
    exact h

theorem readable_operands {passed : Bool} {filter : Option String} {os : List Outcome} :
    (mk passed filter (some (.operands os))).Readable ↔ ∀ o ∈ os, o.Readable := by
  unfold Readable
  rw [nodes, List.forall_mem_cons, nodesOfDetails, nodesAll_eq_flatMap]
  constructor
  · rintro ⟨-, h⟩ o ho node hnode
    exact h node (List.mem_flatMap.mpr ⟨o, ho, hnode⟩)
  · intro h
    refine ⟨fun value hvalue => (by cases hvalue), fun node hnode => ?_⟩
    obtain ⟨o, ho, hnode⟩ := List.mem_flatMap.mp hnode
    exact h o ho node hnode

/-! ### Reading what was written -/

/-- The details of an object are read from the member that is called so. -/
theorem ofFields_eq_bind : {lower : Option String} → (fields : Json.Fields lower) →
    ofFields fields = (fields.get? "details").bind ofDetails
  | _, .nil => rfl
  | _, .cons key _ value rest => by
      rw [ofFields, Json.Fields.get?]
      split
      · rfl
      · exact ofFields_eq_bind rest

/-- Verdict and filter of a node always come back, and the details are read by themselves. -/
theorem ofJson?_toJson_mk (passed : Bool) (filter : Option String) (details : Option Details) :
    ofJson? (mk passed filter details).toJson =
      some (.mk passed filter (details.bind fun d => ofDetails d.toJson)) := by
  cases filter <;> cases details <;>
    simp [toJson, Json.ofMembers, Json.Fields.ofList, ofJson?, ofFields_eq_bind,
      Json.Fields.get?_insert, Json.Fields.get?, ofParts?, readFilter, Json.asBool?, Json.asText?]

/-- An evaluator's details are read as such when they are told apart from all others. -/
theorem ofDetails_eq_evaluator_iff {value : Json} :
    ofDetails value = some (.evaluator value) ↔ value ≠ .null ∧ listOfJson? value = none := by
  cases value with
  | array items =>
      rw [ofDetails, listOfJson?]
      cases ofJsonAll? items <;> simp
  | _ => simp [ofDetails, listOfJson?]

/-- A list of outcomes is read back when each of them is. -/
theorem ofJsonAll?_toJsonAll_iff {os : List Outcome} :
    ofJsonAll? (toJsonAll os) = some os ↔ ∀ o ∈ os, ofJson? o.toJson = some o := by
  induction os with
  | nil => simp [toJsonAll, ofJsonAll?]
  | cons o os ih =>
      rw [toJsonAll, ofJsonAll?, List.forall_mem_cons, ← ih]
      cases ofJson? o.toJson <;> cases ofJsonAll? (toJsonAll os) <;> simp

/-- Operands are read back when they come back as a list. -/
theorem ofDetails_eq_operands_iff {os : List Outcome} :
    ofDetails (Details.operands os).toJson = some (.operands os) ↔
      ofJsonAll? (toJsonAll os) = some os := by
  rw [Details.toJson, ofDetails]
  cases ofJsonAll? (toJsonAll os) <;> simp

/-- An outcome is read back from its stored form exactly when none of its nodes has details that
read as something else. -/
theorem ofJson?_toJson_iff_readable (o : Outcome) : ofJson? o.toJson = some o ↔ o.Readable := by
  induction o using operand_induction with
  | plain passed filter =>
      rw [ofJson?_toJson_mk]
      simp [readable_plain]
  | evaluator passed filter value =>
      rw [ofJson?_toJson_mk, readable_evaluator, ← ofDetails_eq_evaluator_iff]
      simp [Details.toJson]
  | operands passed filter os ih =>
      rw [ofJson?_toJson_mk, readable_operands, ← forall₂_congr ih, ← ofJsonAll?_toJsonAll_iff,
        ← ofDetails_eq_operands_iff]
      simp

end Outcome

end RunRadar
