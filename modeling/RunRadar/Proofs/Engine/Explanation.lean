import RunRadar.Proofs.Engine.Sequence
import RunRadar.Proofs.Engine.Stored
import RunRadar.Proofs.Tree.Occurrence

/-!
# RunRadar.Proofs.Engine.Explanation

Outcomes **explain verdicts**. A tree and its outcome have different shapes: an AND is recorded with
the outcomes of all of its operands, an OR with the outcome of the one operand that passes, or with
failures that stand for its operands when there is none. `Explains` says at every depth how the two
fit together, and which operands were evaluated to what.

Evaluators may remember and storage may change, so an operand is evaluated at an engine, the one
that the operands in front of it leave behind. Where that makes no difference, operands may as well
be evaluated alone (`Explains.alone`).
-/

namespace RunRadar

open RunRadar.Action

/-! ### Explanations -/

/-- What a node of an outcome tells about the node of the tree that it belongs to. Only leaves of
registered filters name their filter, and the verdict of a node that joins operands can be
recomputed from the details. -/
def Outcome.Tells (registry : Registry) : Tree → Outcome → Prop
  | .identity _, o => o.filter = none ∧ o.details = none
  | .leaf l, o => o.filter = (registry.lookup? l.id).map fun _ => l.id
  | .combine op _, o => o.filter = none ∧
      ∃ os, o.details = some (.operands os) ∧ o.passed = op.join (os.map Outcome.passed)

section Explanations

variable {σ : Type} (registry : Registry) (comes : Tree → Action σ Evaluated)

/-- The engine that some trees leave behind when they are evaluated one after the other. -/
def behind : List Tree → Engine σ → Engine σ
  | [], e => e
  | t :: ts, e => behind ts (comes t e).2

/-- Each of some trees, evaluated one after the other, has an outcome that does not pass. -/
def NonePasses (e : Engine σ) (ts : List Tree) : Prop :=
  ∀ i t, ts[i]? = some t →
    ∃ o, (comes t (behind comes (ts.take i) e)).1 = .ok o ∧ o.passed = false

/-- An outcome explains what a tree comes to at an engine. For an AND, each entry is what the
operand of the same number comes to. For an OR, the only entry is what the first operand that passes
comes to, or each entry is a bare failure, if no operand passes. All of this holds for the entries
again. -/
inductive Explains : Engine σ → Tree → Outcome → Prop
  | identity (e : Engine σ) (op : Connective) : Explains e (.identity op) (.bare op.identity)
  | leaf {e : Engine σ} {l : Leaf} {o : Outcome} (tells : o.Tells registry (.leaf l))
    (plain : ∀ os, o.details ≠ some (.operands os)) : Explains e (.leaf l) o
  | all {e : Engine σ} {ts : List Tree} {os : List Outcome} (length : os.length = ts.length)
    (entry : ∀ (i : Nat) t o, ts[i]? = some t → os[i]? = some o →
      (comes t (behind comes (ts.take i) e)).1 = .ok o)
    (why : ∀ (i : Nat) t o, ts[i]? = some t → os[i]? = some o →
      Explains (behind comes (ts.take i) e) t o) :
    Explains e (.combine .and ts) (.combined (os.all Outcome.passed) os)
  | found {e : Engine σ} {front after : List Tree} {t : Tree} {o : Outcome}
    (none : NonePasses comes e front) (entry : (comes t (behind comes front e)).1 = .ok o)
    (passes : o.passed = true) (why : Explains (behind comes front e) t o) :
    Explains e (.combine .or (front ++ t :: after)) (.combined true [o])
  | missed {e : Engine σ} {ts : List Tree} (none : NonePasses comes e ts) :
    Explains e (.combine .or ts) (.combined false (List.replicate ts.length .fail))

end Explanations

section Explanations

variable {σ : Type} {registry : Registry} {comes : Tree → Action σ Evaluated} {e : Engine σ}
  {t : Tree} {ts : List Tree} {o : Outcome}

@[simp] theorem nonePasses_nil : NonePasses comes e [] := by
  intro i t h
  cases h

/-- None of some trees passes when the first one does not, and none of the others behind it. -/
theorem nonePasses_cons (here : (comes t e).1 = .ok o) (hfails : o.passed = false)
    (h : NonePasses comes (comes t e).2 ts) : NonePasses comes e (t :: ts) := by
  intro i s hs
  cases i with
  | zero =>
      obtain rfl : t = s := Option.some.inj hs
      exact ⟨o, here, hfails⟩
  | succ i => exact h i s hs

/-- What explains a verdict tells about its node. -/
theorem Explains.tells (h : Explains registry comes e t o) : o.Tells registry t := by
  cases h with
  | identity => exact ⟨rfl, rfl⟩
  | leaf tells plain => exact tells
  | @all e ts os length entry why =>
      refine ⟨rfl, os, rfl, ?_⟩
      show os.all Outcome.passed = (os.map Outcome.passed).all id
      rw [List.all_map]
      rfl
  | found none entry passes why =>
      refine ⟨rfl, _, rfl, ?_⟩
      simp [Connective.join, passes]
  | missed none =>
      refine ⟨rfl, _, rfl, ?_⟩
      simp [Connective.join]

/-! ### Nodes of explanations -/

theorem Outcome.nodes_combined (passed : Bool) (os : List Outcome) :
    (combined passed os).nodes = combined passed os :: os.flatMap nodes := by
  rw [combined, nodes, nodesOfDetails, nodesAll_eq_flatMap]

/-- An outcome without operands is its only node. -/
theorem Outcome.nodes_of_plain (h : ∀ os, o.details ≠ some (.operands os)) : o.nodes = [o] := by
  cases o using operand_induction with
  | plain => rfl
  | evaluator => rfl
  | operands passed filter os => exact absurd rfl (h os)

/-- An outcome is what some node of a tree comes to, and tells about that node. -/
def Outcome.BelongsTo (registry : Registry) (comes : Tree → Action σ Evaluated) (t : Tree)
    (o : Outcome) : Prop :=
  ∃ place s d, t.nodeAt? place = some s ∧ (comes s d).1 = .ok o ∧ o.Tells registry s

theorem Outcome.BelongsTo.operand {op : Connective} {i : Nat} (hi : ts[i]? = some t)
    (h : o.BelongsTo registry comes t) : o.BelongsTo registry comes (.combine op ts) := by
  obtain ⟨place, s, d, hnode, hs, htells⟩ := h
  exact ⟨i :: place, s, d, by simp [hi, hnode], hs, htells⟩

/-- An outcome that explains what a tree comes to belongs to the tree itself. -/
theorem Explains.belongsTo (h : Explains registry comes e t o) (here : (comes t e).1 = .ok o) :
    o.BelongsTo registry comes t := ⟨[], t, e, by simp, here, h.tells⟩

/-- The nodes of an explanation are bare failures, or belong to nodes of the tree. -/
theorem Explains.nodes (h : Explains registry comes e t o) (here : (comes t e).1 = .ok o)
    {node : Outcome} (hnode : node ∈ o.nodes) :
    node = .fail ∨ node.BelongsTo registry comes t := by
  have root := h.belongsTo here
  induction h with
  | identity e op =>
      obtain rfl := List.mem_singleton.mp hnode
      exact .inr root
  | leaf tells plain =>
      rw [Outcome.nodes_of_plain plain, List.mem_singleton] at hnode
      exact .inr (hnode ▸ root)
  | @all e ts os length entry why ih =>
      rw [Outcome.nodes_combined, List.mem_cons, List.mem_flatMap] at hnode
      rcases hnode with rfl | ⟨o, ho, hnode⟩
      · exact .inr root
      · obtain ⟨i, hi⟩ := List.getElem?_of_mem ho
        obtain ⟨t, ht⟩ : ∃ t, ts[i]? = some t := by
          obtain ⟨hlt, -⟩ := List.getElem?_eq_some_iff.mp hi
          exact ⟨_, List.getElem?_eq_getElem (length ▸ hlt)⟩
        have hentry := entry i t o ht hi
        exact (ih i t o ht hi hentry hnode ((why i t o ht hi).belongsTo hentry)).imp_right
          (.operand ht)
  | @found e front after t o none entry passes why ih =>
      rw [Outcome.nodes_combined, List.mem_cons, List.flatMap_singleton] at hnode
      rcases hnode with rfl | hnode
      · exact .inr root
      · have ht : (front ++ t :: after)[front.length]? = some t := by simp
        exact (ih entry hnode (why.belongsTo entry)).imp_right (.operand ht)
  | missed none =>
      rw [Outcome.nodes_combined, List.mem_cons, List.mem_flatMap] at hnode
      rcases hnode with rfl | ⟨o, ho, hnode⟩
      · exact .inr root
      · obtain rfl := List.eq_of_mem_replicate ho
        exact .inl (List.mem_singleton.mp hnode)

/-! ### Operands that are evaluated alone -/

/-- The leaves of an operand are leaves of the node. -/
theorem Tree.leaves_subset_of_mem {op : Connective} (h : t ∈ ts) :
    t.leaves ⊆ (combine op ts).leaves := by
  intro l hl
  rw [leaves_combine, List.mem_flatMap]
  exact ⟨t, h, hl⟩

@[simp] theorem behind_pure (answer : Tree → Evaluated) (ts : List Tree) (e : Engine σ) :
    behind (fun t => pure (answer t)) ts e = e := by
  induction ts with
  | nil => rfl
  | cons t ts ih => exact ih

section Alone

variable {I : Engine σ → Prop} {answer : Tree → Evaluated}

/-- Trees that keep a property of engines leave an engine with it behind. -/
theorem keeps_behind (h : ∀ t ∈ ts, Keeps I (comes t)) (he : I e) : I (behind comes ts e) := by
  induction ts generalizing e with
  | nil => exact he
  | cons t ts ih =>
      exact ih (fun s hs => h s (List.mem_cons_of_mem _ hs)) (h t List.mem_cons_self e he)

/-- The trees over the leaves of a tree come to the same at all engines in question. -/
def Settles (I : Engine σ → Prop) (comes : Tree → Action σ Evaluated) (answer : Tree → Evaluated)
    (t : Tree) : Prop :=
  ∀ s : Tree, s.leaves ⊆ t.leaves → Ensures I (comes s) (· = answer s)

theorem Settles.ensures (h : Settles I comes answer t) : Ensures I (comes t) (· = answer t) :=
  h t (List.Subset.refl _)

theorem Settles.operand {op : Connective} (h : Settles I comes answer (.combine op ts))
    (ht : t ∈ ts) : Settles I comes answer t :=
  fun s hs => h s (List.Subset.trans hs (Tree.leaves_subset_of_mem ht))

section Operands

variable (settled : ∀ t ∈ ts, Settles I comes answer t) (he : I e)

include settled he

/-- Operands that come to the same at all engines in question lead from such engines to such. -/
theorem behind_of_settled : I (behind comes ts e) :=
  keeps_behind (fun t ht => (settled t ht).ensures.keeps) he

/-- Behind the operands in front of it, an operand comes to what it comes to alone. -/
theorem eq_answer_behind {i : Nat} (ht : ts[i]? = some t) :
    (comes t (behind comes (ts.take i) e)).1 = answer t := by
  have hfront : I (behind comes (ts.take i) e) :=
    behind_of_settled (fun t ht => settled t (List.mem_of_mem_take ht)) he
  exact ((settled t (List.mem_of_getElem? ht)).ensures _ hfront).1

/-- If none of some operands passes, none passes alone. -/
theorem NonePasses.alone (h : NonePasses comes e ts) (d : Engine σ) :
    NonePasses (fun t => pure (answer t)) d ts := by
  intro i t ht
  obtain ⟨o, ho, hfails⟩ := h i t ht
  exact ⟨o, (eq_answer_behind settled he ht).symm.trans ho, hfails⟩

end Operands

/-- Where operands come to the same at all engines in question, what explains a verdict explains it
by what operands come to alone. -/
theorem Explains.alone (h : Explains registry comes e t o) (he : I e)
    (hsettles : Settles I comes answer t) (d : Engine σ) :
    Explains registry (fun t => pure (answer t)) d t o := by
  induction h with
  | identity e op => exact .identity d op
  | leaf tells plain => exact .leaf tells plain
  | @all e ts os length entry why ih =>
      have settled : ∀ t ∈ ts, Settles I comes answer t := fun t ht => hsettles.operand ht
      refine .all length (fun i t o ht ho => ?_) fun i t o ht ho => ?_
      · exact (eq_answer_behind settled he ht).symm.trans (entry i t o ht ho)
      · have hfront : I (behind comes (ts.take i) e) :=
          behind_of_settled (fun t ht => settled t (List.mem_of_mem_take ht)) he
        rw [behind_pure]
        exact ih i t o ht ho hfront (settled t (List.mem_of_getElem? ht))
  | @found e front after t o none entry passes why ih =>
      have settled : ∀ s ∈ front, Settles I comes answer s :=
        fun s hs => hsettles.operand (List.mem_append_left _ hs)
      have ht : Settles I comes answer t :=
        hsettles.operand (List.mem_append_right _ List.mem_cons_self)
      have hfront : I (behind comes front e) := behind_of_settled settled he
      refine .found (none.alone settled he d) ((ht.ensures _ hfront).1.symm.trans entry) passes ?_
      rw [behind_pure]
      exact ih hfront ht
  | missed none => exact .missed (none.alone (fun t ht => hsettles.operand ht) he d)

end Alone

end Explanations

/-! ### The interpreter -/

namespace Interpreter

variable {σ : Type} {interpreter : Interpreter σ} {run : Run} {e : Engine σ}

/-- The outcome of a leaf has no operands and names the filter, if that is registered. -/
theorem ensures_evaluateLeaf_tells (run : Run) (l : Leaf) :
    Ensures (fun _ => True) (interpreter.evaluateLeaf run l) (IfOk fun o =>
      o.Tells interpreter.registry (.leaf l) ∧ ∀ os, o.details ≠ some (.operands os)) := by
  unfold evaluateLeaf
  show Ensures _ _ (IfOk fun o : Outcome =>
    o.filter = (interpreter.registry.lookup? l.id).map (fun _ => l.id) ∧
      ∀ os, o.details ≠ some (.operands os))
  cases interpreter.registry.lookup? l.id with
  | none => exact ensures_pure (ifOk_ok ⟨rfl, nofun⟩)
  | some filter =>
      dsimp only [evaluateFilter]
      cases hp : filter.predicate? l.params with
      | some built =>
          cases built with
          | error err => exact ensures_pure (ifOk_error _)
          | ok p =>
              refine (ensures_any (runMatches interpreter.storage run p)).bind fun r _ => ?_
              cases r with
              | error fault => exact ensures_pure (ifOk_error _)
              | ok matched => exact ensures_pure (ifOk_ok ⟨rfl, nofun⟩)
      | none =>
          have hb : filter.builder? = none := filter.predicate?_eq_none_iff.mp hp
          obtain ⟨evaluate, hkind⟩ := filter.builder?_eq_none_iff.mp hb
          have he : filter.evaluator? = some evaluate := by rw [Filter.evaluator?, hkind]
          rw [he]
          dsimp only
          cases filter.validate l.params with
          | error err => exact ensures_pure (ifOk_error _)
          | ok _ =>
              refine (ensures_any (interpreter.consult evaluate run l)).bind fun r _ => ?_
              cases r with
              | error fault => exact ensures_pure (ifOk_error _)
              | ok verdict =>
                  refine ensures_pure (ifOk_ok ⟨rfl, fun os hos => ?_⟩)
                  obtain ⟨value, -, hvalue⟩ := Option.map_eq_some_iff.mp hos
                  cases hvalue

/-- All operands are evaluated, one after the other. -/
theorem getElem?_evaluateAll (interpreter : Interpreter σ) (run : Run) (ts : List Tree)
    (e : Engine σ) (i : Nat) :
    (interpreter.evaluateAll run ts e).1[i]? = ts[i]?.map fun t =>
      (interpreter.evaluate run t (behind (interpreter.evaluate run) (ts.take i) e)).1 := by
  induction ts generalizing e i with
  | nil => rfl
  | cons t ts ih =>
      cases i with
      | zero => rfl
      | succ i => exact ih (interpreter.evaluate run t e).2 i

theorem length_evaluateAll (interpreter : Interpreter σ) (run : Run) (ts : List Tree)
    (e : Engine σ) :
    (interpreter.evaluateAll run ts e).1.length = ts.length := by
  induction ts generalizing e with
  | nil => rfl
  | cons t ts ih => exact congrArg (· + 1) (ih (interpreter.evaluate run t e).2)

/-- An OR looks for the first operand that passes. -/
theorem firstPass_eq_ok {ts : List Tree} {found : Option Outcome}
    (h : (interpreter.firstPass run ts e).1 = .ok found) :
    (found = none ∧ NonePasses (interpreter.evaluate run) e ts) ∨
      ∃ front t after o, found = some o ∧ ts = front ++ t :: after ∧
        NonePasses (interpreter.evaluate run) e front ∧ o.passed = true ∧
        (interpreter.evaluate run t (behind (interpreter.evaluate run) front e)).1 = .ok o := by
  induction ts generalizing e with
  | nil =>
      cases h
      exact .inl ⟨rfl, nonePasses_nil⟩
  | cons t ts ih =>
      simp only [firstPass, bind_apply] at h
      cases hr : (interpreter.evaluate run t e).1 with
      | error err =>
          rw [hr] at h
          cases h
      | ok o =>
          rw [hr] at h
          by_cases hp : o.passed = true
          · simp only [if_pos hp] at h
            cases h
            exact .inr ⟨[], t, ts, o, rfl, rfl, nonePasses_nil, hp, hr⟩
          · simp only [if_neg hp] at h
            have hfails : o.passed = false := Bool.eq_false_iff.mpr hp
            rcases ih h with ⟨rfl, hnone⟩ | ⟨front, s, after, o', rfl, rfl, hnone, hpasses, hs⟩
            · exact .inl ⟨rfl, nonePasses_cons hr hfails hnone⟩
            · exact .inr ⟨t :: front, s, after, o', rfl, rfl, nonePasses_cons hr hfails hnone,
                hpasses, hs⟩

/-- What a tree comes to explains the verdict. -/
theorem explains_evaluate {t : Tree} {o : Outcome} (h : (interpreter.evaluate run t e).1 = .ok o) :
    Explains interpreter.registry (interpreter.evaluate run) e t o := by
  induction t using Tree.operand_induction generalizing e o with
  | identity op =>
      cases h
      exact .identity e op
  | leaf l =>
      rw [evaluate_leaf] at h
      obtain ⟨htells, hplain⟩ := (ensures_evaluateLeaf_tells run l e trivial).1 o h
      exact .leaf htells hplain
  | combine op ts ih =>
      cases op with
      | and =>
          rw [evaluate_and] at h
          obtain ⟨os, hos, rfl⟩ := conjunction_eq_ok h
          have hlength : os.length = ts.length := by
            rw [← length_evaluateAll interpreter run ts e, hos, List.length_map]
          have hentry (i : Nat) (t : Tree) (o : Outcome) (ht : ts[i]? = some t)
              (ho : os[i]? = some o) : (interpreter.evaluate run t
                (behind (interpreter.evaluate run) (ts.take i) e)).1 = .ok o := by
            have hi := getElem?_evaluateAll interpreter run ts e i
            rw [hos, List.getElem?_map, ho, ht] at hi
            exact (Option.some.inj hi).symm
          refine .all hlength hentry fun i t o ht ho => ?_
          exact ih t (List.mem_of_getElem? ht) (hentry i t o ht ho)
      | or =>
          rw [evaluate_or] at h
          obtain ⟨found, hfound, rfl⟩ := exists_of_map_eq_ok h
          rcases firstPass_eq_ok hfound with
            ⟨rfl, hnone⟩ | ⟨front, t, after, o, rfl, rfl, hnone, hpasses, ht⟩
          · exact .missed hnone
          · exact .found hnone ht hpasses (ih t (by simp) ht)

/-- Operands of a tree may be evaluated alone where its leaves come to the same at all engines in
question. -/
theorem settles_evaluate {I : Engine σ → Prop} {answer : Leaf → Evaluated} {t : Tree} (he : I e)
    (h : ∀ l ∈ t.leaves, Ensures I (interpreter.evaluateLeaf run l) (· = answer l)) :
    Settles I (interpreter.evaluate run) (fun s => (interpreter.evaluate run s e).1) t := by
  intro s hs
  have hevaluate : Ensures I (interpreter.evaluate run s) _ :=
    ensures_evaluateAt fun l hl => h l (hs hl)
  exact hevaluate.mono fun r hr => hr.trans (hevaluate e he).1.symm

/-- What a tree comes to explains the verdict at every depth: an AND is recorded with what each of
its operands comes to, and an OR with what the first operand that passes comes to, or else with a
bare failure for each operand. Apart from these failures, every node of the outcome is what some
node of the tree comes to. Its verdict can be recomputed from the details, if these are outcomes of
operands, and it names a filter if it belongs to a leaf whose filter is registered, and only then.

An operand is evaluated at the engine that the operands in front of it leave behind. Where the
leaves come to the same at all engines in question, it may as well be evaluated alone, and the
outcome is the same however long calls are waited for. -/
theorem evaluate_explains {σ : Type} (interpreter : Interpreter σ) (run : Run) (t : Tree)
    (e : Engine σ) (o : Outcome) (h : (interpreter.evaluate run t e).1 = .ok o) :
    Explains interpreter.registry (interpreter.evaluate run) e t o ∧
      (∀ node ∈ o.nodes, node = .fail ∨
        node.BelongsTo interpreter.registry (interpreter.evaluate run) t) ∧
      ∀ (I : Engine σ → Prop) (answer : Leaf → Evaluated), I e →
        (∀ l ∈ t.leaves, Ensures I (interpreter.evaluateLeaf run l) (· = answer l)) →
          Explains interpreter.registry (fun s => pure (interpreter.evaluate run s e).1) e t o ∧
            ∀ pace, (interpreter.evaluateAt pace run t e).1 = .ok o := by
  have hexplains := explains_evaluate h
  refine ⟨hexplains, fun node hnode => hexplains.nodes h hnode, ?_⟩
  intro I answer he hleaves
  refine ⟨hexplains.alone he (settles_evaluate he hleaves) e, fun pace => ?_⟩
  calc (interpreter.evaluateAt pace run t e).1
    _ = t.outcome answer := (ensures_evaluateAt hleaves e he).1
    _ = (interpreter.evaluate run t e).1 := (ensures_evaluateAt hleaves e he).1.symm
    _ = .ok o := h

/-- An AND over an AND with an evaluator, an OR without an operand that passes, and an OR with one
that passes behind another. -/
theorem evaluate_explains_nested :
    let silent : Filter := ⟨"silent", [], .evaluator
      (.steady fun _ _ => .ok ⟨false, some (.string "nothing was said")⟩)⟩
    let interpreter := overMemory (Registry.ofList [silent]) (pure (.ok .skipped))
    let run := ({} : VirtualRun).runUntil ⟨0, 0, by decide⟩ none
    let e : Engine Memory := .start .empty
    let leaf := Tree.leafOf "silent" .null
    let unknown := Tree.leafOf "unknown" .null
    let t := Tree.combine .and [.combine .and [leaf, unknown], .combine .or [leaf, .combine .or []],
      .combine .or [leaf, .combine .and [unknown, .identity .and], leaf]]
    let said : Outcome := .mk false (some "silent") (some (.evaluator (.string "nothing was said")))
    let o : Outcome := .combined false [.combined false [said, .pass],
      .combined false [.fail, .fail], .combined true [.combined true [.pass, .pass]]]
    (interpreter.evaluate run t e).1 = .ok o ∧
      Explains interpreter.registry (interpreter.evaluate run) e t o ∧
      (∀ node ∈ o.nodes, node = .fail ∨
        node.BelongsTo interpreter.registry (interpreter.evaluate run) t) ∧
      Explains interpreter.registry (fun s => pure (interpreter.evaluate run s e).1) e t o ∧
      (interpreter.evaluateAt .remoteStorage run t e).1 = .ok o := by
  intro silent interpreter run e leaf unknown t said o
  have ho : (interpreter.evaluate run t e).1 = .ok o := by decide +kernel
  have hsteady : interpreter.registry.IsSteady := Registry.isSteady_ofList_singleton _ _ _
  obtain ⟨hexplains, hnodes, halone⟩ := evaluate_explains interpreter run t e o ho
  obtain ⟨halone, hpace⟩ :=
    halone (Engine.At e.store e.flight) (Leaf.answer interpreter.registry {} run) ⟨rfl, rfl⟩
      fun l _ => ensures_evaluateLeaf (Leaf.isSteady_of_registry hsteady l)
  exact ⟨ho, hexplains, hnodes, halone, hpace .remoteStorage⟩

end Interpreter

end RunRadar
