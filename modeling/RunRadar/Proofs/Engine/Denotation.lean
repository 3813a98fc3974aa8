import Mathlib.Data.List.Forall2
import RunRadar.Engine.Checks
import RunRadar.Proofs.Tree.Value

/-!
# RunRadar.Proofs.Engine.Denotation

What a tree **comes to**, as a function of what its leaves come to. The interpreter threads an
engine through the tree; the functions here do without, so that laws about verdicts are laws
about lists of outcomes.

The main statement is `Tree.passed_eq_value`: a verdict is the Boolean value of the tree for
every assignment that agrees with the leaves that answer. Some leaves fail to answer, and
an OR may hide that behind an operand that passes, so the assignment is free there.
-/

namespace RunRadar

/-- What evaluating something comes to. -/
abbrev Evaluated := Except EvalError Outcome

/-! ### Results -/

section Results

variable {ε α β : Type} {f : α → β} {x : Except ε α}

theorem exists_of_map_eq_ok {b : β} (h : x.map f = .ok b) : ∃ a, x = .ok a ∧ f a = b := by
  cases x with
  | error e => cases h
  | ok a => exact ⟨a, rfl, Except.ok.inj h⟩

theorem eq_of_map_eq_error {e : ε} (h : x.map f = .error e) : x = .error e := by
  cases x with
  | error e' => exact congrArg _ (Except.error.inj h)
  | ok a => cases h

/-- Collecting results gives them all. -/
theorem eq_map_of_mapM_eq_ok {rs : List (Except ε α)} {as : List α}
    (h : rs.mapM id = .ok as) : rs = as.map .ok := by
  induction rs generalizing as with
  | nil =>
      cases h
      rfl
  | cons r rs ih =>
      rw [List.mapM_cons] at h
      cases r with
      | error e => cases h
      | ok a =>
          cases hs : rs.mapM id with
          | error e => rw [hs] at h; cases h
          | ok as' =>
              rw [hs] at h
              cases h
              rw [ih hs, List.map_cons]

/-- Collecting results fails with one of their errors. -/
theorem mem_of_mapM_eq_error {rs : List (Except ε α)} {e : ε} (h : rs.mapM id = .error e) :
    .error e ∈ rs := by
  induction rs with
  | nil => cases h
  | cons r rs ih =>
      rw [List.mapM_cons] at h
      cases r with
      | error e' =>
          cases h
          exact List.mem_cons_self
      | ok a =>
          cases hs : rs.mapM id with
          | error e' =>
              rw [hs] at h
              cases h
              exact List.mem_cons_of_mem _ (ih hs)
          | ok as => rw [hs] at h; cases h

end Results

/-! ### Joining outcomes -/

/-- The first of some outcomes that passes, or the error in front of it. -/
def firstPassing : List Evaluated → Except EvalError (Option Outcome)
  | [] => .ok none
  | .error e :: _ => .error e
  | .ok o :: rs => if o.passed then .ok (some o) else firstPassing rs

/-- What a node comes to, by what all of its operands come to. -/
def Connective.joinOutcomes : Connective → List Evaluated → Evaluated
  | .and, rs => Interpreter.conjunction rs
  | .or, rs => (firstPassing rs).map (Interpreter.disjunction rs.length)

/-- What the root of checks comes to, by what all of its operands come to. Those behind the
first one that decides do not matter. -/
def Connective.checkOutcomes (op : Connective) : List Evaluated → Except EvalError ChecksOutcome
  | [] => .ok ⟨op.identity, []⟩
  | .error e :: _ => .error e
  | .ok o :: rs =>
    if o.passed = op.identity then
      (checkOutcomes op rs).map fun rest => ⟨rest.passed, o :: rest.results⟩
    else .ok ⟨o.passed, [o]⟩

namespace Tree

variable (answer : Leaf → Evaluated)

mutual
/-- What a tree comes to. -/
def outcome : Tree → Evaluated
  | .identity op => .ok (.bare op.identity)
  | .leaf l => answer l
  | .combine op operands => op.joinOutcomes (outcomes operands)
/-- What operands come to, all of them. -/
def outcomes : List Tree → List Evaluated
  | [] => []
  | t :: ts => outcome t :: outcomes ts
end

@[simp] theorem outcomes_eq_map (ts : List Tree) :
    outcomes answer ts = ts.map (outcome answer) := by
  induction ts with
  | nil => rfl
  | cons t ts ih => rw [outcomes, ih, List.map_cons]

@[simp] theorem outcome_identity (op : Connective) :
    (identity op).outcome answer = .ok (.bare op.identity) := rfl

@[simp] theorem outcome_leaf (l : Leaf) : (leaf l).outcome answer = answer l := rfl

@[simp] theorem outcome_combine (op : Connective) (ts : List Tree) :
    (combine op ts).outcome answer = op.joinOutcomes (ts.map (outcome answer)) := by
  rw [outcome, outcomes_eq_map]

/-- What checks come to. -/
def checked : Tree → Except EvalError ChecksOutcome
  | .identity op => .ok ⟨op.identity, []⟩
  | .combine op operands => op.checkOutcomes (operands.map (outcome answer))
  | .leaf l => Connective.and.checkOutcomes [answer l]

end Tree

/-! ### Verdicts over lists of outcomes -/

/-- The verdict of an outcome, if there is one, is the given value. -/
def Decides (r : Evaluated) (v : Bool) : Prop := ∀ o, r = .ok o → o.passed = v

/-- An AND has an outcome when all of its operands have one. -/
theorem conjunction_eq_ok {rs : List Evaluated} {o : Outcome}
    (h : Interpreter.conjunction rs = .ok o) :
    ∃ os : List Outcome, rs = os.map .ok ∧ o = .combined (os.all Outcome.passed) os := by
  unfold Interpreter.conjunction at h
  cases hs : rs.mapM id with
  | error e => rw [hs] at h; cases h
  | ok os =>
      rw [hs] at h
      exact ⟨os, eq_map_of_mapM_eq_ok hs, (Except.ok.inj h).symm⟩

/-- The error of an AND is the error of an operand. -/
theorem mem_of_conjunction_eq_error {rs : List Evaluated} {e : EvalError}
    (h : Interpreter.conjunction rs = .error e) : .error e ∈ rs := by
  unfold Interpreter.conjunction at h
  cases hs : rs.mapM id with
  | error e' =>
      rw [hs] at h
      exact Except.error.inj h ▸ mem_of_mapM_eq_error hs
  | ok os => rw [hs] at h; cases h

theorem mem_of_firstPassing_eq_error {rs : List Evaluated} {e : EvalError}
    (h : firstPassing rs = .error e) : .error e ∈ rs := by
  induction rs with
  | nil => cases h
  | cons r rs ih =>
      cases r with
      | error e' =>
          cases h
          exact List.mem_cons_self
      | ok o =>
          rw [firstPassing] at h
          split at h
          · cases h
          · exact List.mem_cons_of_mem _ (ih h)

/-- The values decided by outcomes are their verdicts. -/
theorem eq_map_passed {os : List Outcome} {vs : List Bool}
    (hd : List.Forall₂ Decides (os.map .ok) vs) : vs = os.map Outcome.passed := by
  induction os generalizing vs with
  | nil =>
      cases hd
      rfl
  | cons o os ih =>
      cases hd with
      | cons hv hd => rw [List.map_cons, hv o rfl, ih hd]

/-- Something passes exactly when some value is true. -/
theorem isSome_firstPassing {rs : List Evaluated} {vs : List Bool}
    (hd : List.Forall₂ Decides rs vs) {found : Option Outcome}
    (h : firstPassing rs = .ok found) : found.isSome = vs.any id := by
  induction hd with
  | nil => cases h; rfl
  | @cons r v rs vs hv _ ih =>
      cases r with
      | error e => cases h
      | ok o =>
          have hp : o.passed = v := hv o rfl
          rw [firstPassing] at h
          split at h
          · next ht =>
              cases h
              simp [← hp, ht]
          · next hf => simp [ih h, ← hp, hf]

namespace Connective

/-- The verdict of a node is its connective over the verdicts of its operands. -/
theorem passed_joinOutcomes {op : Connective} {rs : List Evaluated} {vs : List Bool}
    (hd : List.Forall₂ Decides rs vs) {o : Outcome} (h : op.joinOutcomes rs = .ok o) :
    o.passed = op.join vs := by
  cases op with
  | and =>
      obtain ⟨os, rfl, rfl⟩ := conjunction_eq_ok h
      rw [eq_map_passed hd]
      show os.all Outcome.passed = (os.map Outcome.passed).all id
      rw [List.all_map]
      rfl
  | or =>
      obtain ⟨found, hf, rfl⟩ := exists_of_map_eq_ok h
      rw [join, ← isSome_firstPassing hd hf]
      cases found <;> rfl

/-- The error of a node is the error of an operand. -/
theorem mem_of_joinOutcomes_eq_error {op : Connective} {rs : List Evaluated} {e : EvalError}
    (h : op.joinOutcomes rs = .error e) : .error e ∈ rs := by
  cases op with
  | and => exact mem_of_conjunction_eq_error h
  | or => exact mem_of_firstPassing_eq_error (eq_of_map_eq_error h)

/-- The verdict of checks is their connective over the verdicts of all operands. -/
theorem passed_checkOutcomes {op : Connective} {rs : List Evaluated} {vs : List Bool}
    (hd : List.Forall₂ Decides rs vs) {c : ChecksOutcome} (h : op.checkOutcomes rs = .ok c) :
    c.passed = op.join vs := by
  induction hd generalizing c with
  | nil => cases h; simp
  | @cons r v rs vs hv _ ih =>
      cases r with
      | error e => cases h
      | ok o =>
          have hp : o.passed = v := hv o rfl
          rw [checkOutcomes] at h
          split at h
          · next heq =>
              obtain ⟨rest, hr, rfl⟩ := exists_of_map_eq_ok h
              have hrest : rest.passed = op.join vs := ih hr
              rw [← hp, heq, join_cons_identity]
              exact hrest
          · next hne =>
              cases h
              rw [← hp, join_cons_of_ne hne]

theorem mem_of_checkOutcomes_eq_error {op : Connective} {rs : List Evaluated} {e : EvalError}
    (h : op.checkOutcomes rs = .error e) : .error e ∈ rs := by
  induction rs with
  | nil => cases h
  | cons r rs ih =>
      cases r with
      | error e' =>
          cases h
          exact List.mem_cons_self
      | ok o =>
          rw [checkOutcomes] at h
          split at h
          · exact List.mem_cons_of_mem _ (ih (eq_of_map_eq_error h))
          · cases h

end Connective

/-! ### Verdicts of trees -/

namespace Tree

variable {answer : Leaf → Evaluated}

/-- The assignment gives every leaf that answers its verdict. About the others it may say
anything. -/
def Agrees (t : Tree) (answer : Leaf → Evaluated) (α : Assignment) : Prop :=
  ∀ place l, t.leafAt? place = some l → Decides (answer l) (α place)

theorem Agrees.operand {op : Connective} {ts : List Tree} {α : Assignment}
    (h : (combine op ts).Agrees answer α) {i : Nat} {t : Tree} (hi : ts[i]? = some t) :
    t.Agrees answer (α.operand i) := by
  intro place l hl
  exact h (i :: place) l (by simp [hi, hl])

/-- Where operands have a verdict, it is their value. -/
theorem decides_values {op : Connective} {ts : List Tree} {α : Assignment}
    (h : (combine op ts).Agrees answer α)
    (ih : ∀ t ∈ ts, ∀ β, t.Agrees answer β → Decides (t.outcome answer) (t.value β)) :
    List.Forall₂ Decides (ts.map (outcome answer)) (values α 0 ts) := by
  rw [List.forall₂_map_left_iff]
  refine forall₂_values fun i t hi => ?_
  rw [Nat.zero_add]
  exact ih t (List.mem_of_getElem? hi) _ (h.operand hi)

/-- A verdict is the Boolean value of the tree, whatever truth values are given to the leaves
that do not answer. -/
theorem passed_eq_value {t : Tree} {α : Assignment} (h : t.Agrees answer α) :
    Decides (t.outcome answer) (t.value α) := by
  induction t using operand_induction generalizing α with
  | identity op =>
      intro o ho
      cases ho
      rfl
  | leaf l => exact h [] l rfl
  | combine op ts ih =>
      intro o ho
      rw [outcome_combine] at ho
      exact Connective.passed_joinOutcomes (decides_values h fun t ht _ => ih t ht) ho

/-- The error of a tree is the error of one of its leaves. -/
theorem exists_leaf_of_outcome_eq_error {t : Tree} {e : EvalError}
    (h : t.outcome answer = .error e) : ∃ l ∈ t.leaves, answer l = .error e := by
  induction t using operand_induction with
  | identity op => cases h
  | leaf l => exact ⟨l, List.mem_singleton_self l, h⟩
  | combine op ts ih =>
      rw [outcome_combine] at h
      obtain ⟨t, ht, he⟩ := List.mem_map.mp (Connective.mem_of_joinOutcomes_eq_error h)
      obtain ⟨l, hl, hle⟩ := ih t ht he
      exact ⟨l, by simpa using ⟨t, ht, hl⟩, hle⟩

/-- When every leaf answers, there is an outcome. -/
theorem exists_outcome_eq_ok {t : Tree} (h : ∀ l ∈ t.leaves, ∃ o, answer l = .ok o) :
    ∃ o, t.outcome answer = .ok o := by
  cases ho : t.outcome answer with
  | ok o => exact ⟨o, rfl⟩
  | error e =>
      obtain ⟨l, hl, he⟩ := exists_leaf_of_outcome_eq_error ho
      obtain ⟨o, hok⟩ := h l hl
      rw [he] at hok
      cases hok

/-- The verdict of checks is their Boolean value as well. -/
theorem checked_passed_eq_value {t : Tree} {α : Assignment} (h : t.Agrees answer α)
    {c : ChecksOutcome} (hc : t.checked answer = .ok c) : c.passed = t.value α := by
  cases t with
  | identity op =>
      cases hc
      rfl
  | leaf l =>
      have hl : List.Forall₂ Decides [answer l] [α []] := .cons (h [] l rfl) .nil
      rw [Connective.passed_checkOutcomes hl hc]
      simp [Connective.join, value]
  | combine op ts =>
      have hts := decides_values h fun t _ _ => passed_eq_value
      exact Connective.passed_checkOutcomes hts hc

/-- Some assignment agrees with the leaves that answer. -/
theorem exists_agrees (t : Tree) (answer : Leaf → Evaluated) : ∃ α, t.Agrees answer α := by
  refine ⟨fun place => (t.leafAt? place).any fun l => (answer l).toOption.any (·.passed), ?_⟩
  intro place l hl o ho
  simp [hl, ho, Except.toOption]

/-- Checks have the verdict of the tree. -/
theorem checked_passed_eq {t : Tree} {o : Outcome} (ho : t.outcome answer = .ok o)
    {c : ChecksOutcome} (hc : t.checked answer = .ok c) : c.passed = o.passed := by
  obtain ⟨α, hα⟩ := exists_agrees t answer
  rw [checked_passed_eq_value hα hc, passed_eq_value hα o ho]

/-- When every leaf answers, checks have an outcome. -/
theorem exists_checked_eq_ok {t : Tree} (h : ∀ l ∈ t.leaves, ∃ o, answer l = .ok o) :
    ∃ c, t.checked answer = .ok c := by
  cases hc : t.checked answer with
  | ok c => exact ⟨c, rfl⟩
  | error e =>
      -- the error would be the outcome of an operand, and operands have outcomes
      cases t with
      | identity op => cases hc
      | leaf l =>
          obtain ⟨o, ho⟩ := h l (List.mem_singleton_self l)
          have he := Connective.mem_of_checkOutcomes_eq_error hc
          rw [List.mem_singleton, ho] at he
          cases he
      | combine op ts =>
          obtain ⟨t, ht, he⟩ := List.mem_map.mp (Connective.mem_of_checkOutcomes_eq_error hc)
          obtain ⟨o, ho⟩ := exists_outcome_eq_ok fun l hl => h l (by simpa using ⟨t, ht, hl⟩)
          rw [ho] at he
          cases he

end Tree

end RunRadar
