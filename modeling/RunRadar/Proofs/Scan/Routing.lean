import RunRadar.Filter.Catalog
import RunRadar.Proofs.Engine.Compilation
import RunRadar.Proofs.Scan.Failure

/-!
# RunRadar.Proofs.Scan.Routing

**Which leaf is to blame** when a tree does not compile, and why a scan never compiles checks that
need an evaluator.

Compiling goes through the leaves in document order and stops at the first one that storage cannot
decide, however deep it stands: `Tree.faultOf?_compile` searches the list of the leaves for it. What
is wrong with a single leaf is said without reference to compiling, by `Leaf.Offends`. A scan asks
beforehand whether some leaf needs an evaluator, and the answer is read off the same leaves.
-/

namespace RunRadar

/-! ### Leaves that storage can decide -/

namespace Leaf

/-- Storage can decide a leaf: its filter is not registered, or makes a condition of its params. -/
inductive IsStorable (registry : Registry) (l : Leaf) : Prop
  | unknown (lookup : registry.lookup? l.id = none)
  | built {filter : Filter} {build : ConditionBuilder} {p : Predicate}
    (lookup : registry.lookup? l.id = some filter) (builder : filter.builder? = some build)
    (fits : filter.validate l.params = .ok ())
    (condition : build (filter.reader l.params) = .ok p)

/-- What keeps storage from deciding a leaf: there is an evaluator only, or the params do not fit
the schema of the filter, or no condition can be made of them. -/
inductive Offends (registry : Registry) (l : Leaf) : CompileError → Prop
  | evaluatorOnly {filter : Filter} {evaluate : Evaluator}
    (lookup : registry.lookup? l.id = some filter) (kind : filter.kind = .evaluator evaluate) :
    Offends registry l (.notPushdown l.id)
  | misfit {filter : Filter} {build : ConditionBuilder} {fault : ParamError}
    (lookup : registry.lookup? l.id = some filter) (builder : filter.builder? = some build)
    (rejected : filter.validate l.params = .error fault) : Offends registry l (.params fault)
  | unbuilt {filter : Filter} {build : ConditionBuilder} {fault : ParamError}
    (lookup : registry.lookup? l.id = some filter) (builder : filter.builder? = some build)
    (fits : filter.validate l.params = .ok ())
    (rejected : build (filter.reader l.params) = .error fault) : Offends registry l (.params fault)

end Leaf

namespace Leaf

variable {registry : Registry} {l : Leaf} {err : CompileError}

theorem IsStorable.exists_compile (h : l.IsStorable registry) :
    ∃ p, l.compile registry = .ok p := by
  cases h with
  | unknown lookup => exact ⟨.always, by simp only [Leaf.compile, lookup]⟩
  | @built filter build p lookup builder fits condition =>
      refine ⟨p, ?_⟩
      simp only [Leaf.compile, lookup, Filter.predicate?, builder, fits, condition]

theorem Offends.compile (h : l.Offends registry err) : l.compile registry = .error err := by
  cases h with
  | @evaluatorOnly filter evaluate lookup kind =>
      have hb : filter.builder? = none := filter.builder?_eq_none_iff.mpr ⟨evaluate, kind⟩
      simp only [Leaf.compile, lookup, Filter.predicate?, hb]
  | misfit lookup builder rejected =>
      simp only [Leaf.compile, lookup, Filter.predicate?, builder, rejected]
  | unbuilt lookup builder fits rejected =>
      simp only [Leaf.compile, lookup, Filter.predicate?, builder, fits, rejected]

/-- Storage can decide a leaf, or something keeps it from that. -/
theorem isStorable_or_offends (registry : Registry) (l : Leaf) :
    l.IsStorable registry ∨ ∃ err, l.Offends registry err := by
  cases hl : registry.lookup? l.id with
  | none => exact .inl (.unknown hl)
  | some filter =>
      cases hb : filter.builder? with
      | none =>
          obtain ⟨evaluate, hk⟩ := filter.builder?_eq_none_iff.mp hb
          exact .inr ⟨_, .evaluatorOnly hl hk⟩
      | some build =>
          cases hv : filter.validate l.params with
          | error fault => exact .inr ⟨_, .misfit hl hb hv⟩
          | ok _ =>
              cases hp : build (filter.reader l.params) with
              | error fault => exact .inr ⟨_, .unbuilt hl hb hv hp⟩
              | ok p => exact .inl (.built hl hb hv hp)

/-- Nothing keeps storage from deciding a leaf that it can decide. -/
theorem not_isStorable_iff : ¬ l.IsStorable registry ↔ ∃ err, l.Offends registry err := by
  constructor
  · exact (l.isStorable_or_offends registry).resolve_left
  · rintro ⟨err, h⟩ hstorable
    obtain ⟨p, hp⟩ := hstorable.exists_compile
    rw [h.compile] at hp
    cases hp

/-- The leaves that compile are those that storage can decide. -/
theorem exists_compile_iff : (∃ p, l.compile registry = .ok p) ↔ l.IsStorable registry := by
  constructor
  · rintro ⟨p, hp⟩
    rcases l.isStorable_or_offends registry with h | ⟨err, h⟩
    · exact h
    · rw [h.compile] at hp
      cases hp
  · exact IsStorable.exists_compile

/-- The others fail to compile for what keeps storage from deciding them. -/
theorem compile_eq_error_iff : l.compile registry = .error err ↔ l.Offends registry err := by
  constructor
  · intro herr
    rcases l.isStorable_or_offends registry with h | ⟨err', h⟩
    · obtain ⟨p, hp⟩ := h.exists_compile
      rw [hp] at herr
      cases herr
    · rw [h.compile] at herr
      cases herr
      exact h
  · exact Offends.compile

/-- An evaluator is needed where there is nothing else. -/
theorem needsEvaluator_iff :
    l.needsEvaluator registry = true ↔ ∃ id, l.Offends registry (.notPushdown id) := by
  rw [needsEvaluator, Option.any_eq_true]
  constructor
  · rintro ⟨filter, lookup, hpushdown⟩
    have hb : filter.builder? = none := by simpa [Filter.isPushdown] using hpushdown
    obtain ⟨evaluate, kind⟩ := filter.builder?_eq_none_iff.mp hb
    exact ⟨l.id, .evaluatorOnly lookup kind⟩
  · rintro ⟨id, h⟩
    cases h with
    | @evaluatorOnly filter evaluate lookup kind =>
        have hb : filter.builder? = none := filter.builder?_eq_none_iff.mpr ⟨evaluate, kind⟩
        exact ⟨filter, lookup, by simp [Filter.isPushdown, hb]⟩

end Leaf

/-! ### The first leaf that offends -/

namespace Tree

variable {registry : Registry} {t : Tree}

/-- A tree compiles when storage can decide all of its leaves. -/
theorem exists_compile_iff_isStorable :
    (∃ p, t.compile registry = .ok p) ↔ ∀ l ∈ t.leaves, l.IsStorable registry := by
  rw [← faultOf?_eq_none_iff, faultOf?_compile, List.findSome?_eq_none_iff]
  refine forall₂_congr fun l _ => ?_
  rw [faultOf?_eq_none_iff, Leaf.exists_compile_iff]

/-- The error of a tree is that of the first leaf that storage cannot decide. -/
theorem compile_eq_error_iff {err : CompileError} :
    t.compile registry = .error err ↔
      ∃ front l behind, t.leaves = front ++ l :: behind ∧
        (∀ s ∈ front, s.IsStorable registry) ∧ l.Offends registry err := by
  rw [← faultOf?_eq_some_iff, faultOf?_compile, List.findSome?_eq_some_iff]
  simp only [faultOf?_eq_some_iff, faultOf?_eq_none_iff, Leaf.compile_eq_error_iff,
    Leaf.exists_compile_iff]
  constructor
  · rintro ⟨front, l, behind, hleaves, hl, hfront⟩
    exact ⟨front, l, behind, hleaves, hfront, hl⟩
  · rintro ⟨front, l, behind, hleaves, hfront, hl⟩
    exact ⟨front, l, behind, hleaves, hl, hfront⟩

/-- A tree without leaves that need an evaluator does not fail for want of one. -/
theorem compile_ne_notPushdown (h : t.needsEvaluator registry = false) (id : String) :
    t.compile registry ≠ .error (.notPushdown id) := by
  intro herr
  obtain ⟨front, l, behind, hleaves, -, hoffends⟩ := compile_eq_error_iff.mp herr
  have hneeds : l.needsEvaluator registry = true := Leaf.needsEvaluator_iff.mpr ⟨id, hoffends⟩
  rw [needsEvaluator_eq_any, List.any_eq_false] at h
  exact h l (by rw [hleaves]; simp) hneeds

/-- A tree with a leaf that needs an evaluator does not compile. -/
theorem compile_ne_ok (h : t.needsEvaluator registry = true) (p : Predicate) :
    t.compile registry ≠ .ok p := by
  intro hp
  rw [needsEvaluator_eq_any, List.any_eq_true] at h
  obtain ⟨l, hl, hneeds⟩ := h
  obtain ⟨id, hoffends⟩ := Leaf.needsEvaluator_iff.mp hneeds
  have hstorable : l.IsStorable registry := exists_compile_iff_isStorable.mp ⟨p, hp⟩ l hl
  exact Leaf.not_isStorable_iff.mpr ⟨_, hoffends⟩ hstorable

end Tree

/-! ### Routing -/

/-- A radar is given up for an evaluator that its checks need. -/
def Scanner.AsksEvaluator {α : Type} (result : Except ScanError α) : Prop :=
  ∃ id filter, result = .error (.checks id (.notPushdown filter))

namespace Scanner

variable {σ : Type} (scanner : Scanner σ) (rescan : Rescan σ) (radar : Radar)

/-- No rule fails for want of an evaluator that its checks need: only the scope is compiled. -/
theorem not_asksEvaluator_rule : ¬ AsksEvaluator (radar.rule scanner.registry) := by
  rintro ⟨id, filter, h⟩
  unfold Radar.rule at h
  split at h
  · cases h
  · split at h
    · cases h
    · split at h <;> cases h

/-- A radar is never given up for an evaluator that its checks need: only checks without leaves that
need one are compiled. -/
theorem scanRadar_not_asksEvaluator (e : Engine σ) :
    ¬ AsksEvaluator (scanner.scanRadar rescan radar e).1 := by
  rintro ⟨id, filter, h⟩
  cases scanner.givesUp_of_scanRadar rescan h with
  | ruleless hrule => exact scanner.not_asksEvaluator_rule radar ⟨id, filter, hrule⟩
  | uncompiled _ hneeds hcompile => exact Tree.compile_ne_notPushdown hneeds filter hcompile

end Scanner

/-- Compiling succeeds when storage can decide all leaves, and blames the first one that it cannot
decide otherwise, for what keeps it from that. So a tree compiles only if none of its leaves needs
an evaluator, and if none does, no evaluator is asked for. A scan compiles checks in the latter case
only, and never gives up a radar for an evaluator that its checks need, whatever the storage. -/
theorem compile_blames_first_offender (registry : Registry) (t : Tree) :
    ((∃ p, t.compile registry = .ok p) ↔ ∀ l ∈ t.leaves, l.IsStorable registry) ∧
      (∀ err, t.compile registry = .error err ↔
        ∃ front l behind, t.leaves = front ++ l :: behind ∧
          (∀ s ∈ front, s.IsStorable registry) ∧ l.Offends registry err) ∧
      (∀ l : Leaf, ¬ l.IsStorable registry ↔ ∃ err, l.Offends registry err) ∧
      (t.needsEvaluator registry = false →
        ∀ id, t.compile registry ≠ .error (.notPushdown id)) ∧
      (t.needsEvaluator registry = true → ∀ p, t.compile registry ≠ .ok p) ∧
      ∀ {σ : Type} (storage : Storage σ) (batchSize : Nat) (pace : Pace)
        (rescan : Scanner.Rescan σ) (radar : Radar) (e : Engine σ) (id : Uuid) (filter : String),
        (Scanner.scanRadar ⟨storage, registry, batchSize, pace⟩ rescan radar e).1 ≠
          .error (.checks id (.notPushdown filter)) := by
  refine ⟨Tree.exists_compile_iff_isStorable, fun err => Tree.compile_eq_error_iff,
    fun l => Leaf.not_isStorable_iff, Tree.compile_ne_notPushdown, Tree.compile_ne_ok, ?_⟩
  intro σ storage batchSize pace rescan radar e id filter h
  exact Scanner.scanRadar_not_asksEvaluator ⟨storage, registry, batchSize, pace⟩ rescan radar e
    ⟨id, filter, h⟩

/-- Of two leaves that offend, the first one is blamed, for params that lack the threshold. That the
second one needs an evaluator keeps a scan from compiling the tree. -/
theorem compile_blames_missing_threshold :
    let registry := Registry.builtin.register failedFilter
    let failed : Leaf := ⟨"failed", .nil⟩
    let unknown : Leaf := ⟨"unknown", .nil⟩
    let slow : Leaf := ⟨"duration", .ofList [("operator", .string "gt")]⟩
    let mail : Leaf := ⟨"email", .ofList [("field", .string "output")]⟩
    let stored := Tree.combine .and [.combine .or [.leaf failed, .leaf unknown], .identity .or]
    let t := Tree.combine .or [stored, .combine .and [.leaf slow, .leaf mail]]
    (∃ p, stored.compile registry = .ok p) ∧ stored.needsEvaluator registry = false ∧
      t.compile registry = .error (.params (.missing "duration" "duration")) ∧
      t.needsEvaluator registry = true ∧ (∀ p, t.compile registry ≠ .ok p) ∧
      mail.compile registry = .error (.notPushdown "email") := by
  intro registry failed unknown slow mail stored t
  have hstorable : ∀ l ∈ [failed, unknown], l.IsStorable registry := by
    intro l hl
    rcases List.mem_pair.mp hl with rfl | rfl
    · have hlookup : registry.lookup? failed.id = some failedFilter := rfl
      exact .built hlookup rfl rfl rfl
    · exact .unknown rfl
  have hslow : slow.Offends registry (.params (.missing "duration" "duration")) :=
    .misfit rfl rfl rfl
  have hmail : mail.Offends registry (.notPushdown "email") := .evaluatorOnly rfl rfl
  obtain ⟨hcompiles, -⟩ := compile_blames_first_offender registry stored
  obtain ⟨-, hblame, -, -, hnever, -⟩ := compile_blames_first_offender registry t
  have hleaves : t.leaves = [failed, unknown] ++ slow :: [mail] := rfl
  refine ⟨hcompiles.mpr hstorable, rfl, ?_, rfl, hnever rfl, hmail.compile⟩
  exact (hblame _).mpr ⟨_, slow, [mail], hleaves, hstorable, hslow⟩

end RunRadar
