import RunRadar.Proofs.Engine.Denotation
import RunRadar.Proofs.Tree.Occurrence

/-!
# RunRadar.Proofs.Engine.Visit

Which leaves of a tree have to be **visited**. The same filter may be called in several places and
come to something else in each of them, so answers belong to places here, as truth values do.

An AND visits all of its operands. An OR visits none behind the first one that passes or fails to
answer. What that means for the tree as a whole is read off `mem_visitedAll_iff`, which says of an
operand that it is visited when none in front of it stops its node.
-/

namespace RunRadar

/-- Whether a node goes no further, once an operand has come to this. -/
def Connective.stopsAt : Connective → Evaluated → Bool
  | .and, _ => false
  | .or, .error _ => true
  | .or, .ok o => o.passed

@[simp] theorem Connective.stopsAt_and (r : Evaluated) : Connective.and.stopsAt r = false := rfl

namespace Tree

/-! ### Answers by places -/

/-- Something for each place. -/
abbrev ByPlace (α : Type) := Place → α

/-- What the leaves of a tree come to. -/
abbrev Answers := ByPlace Evaluated

namespace ByPlace

variable {α : Type}

/-- What there is for a node, as that for its operand of some number. -/
def operand (f : ByPlace α) (i : Nat) : ByPlace α := fun place => f (i :: place)

/-- What there is for a tree, as that for the node at a place. -/
def below (f : ByPlace α) (place : Place) : ByPlace α := fun rest => f (place ++ rest)

/-- What there is for a node, that for one operand being given apart. -/
def graft (f : ByPlace α) (i : Nat) (others : ByPlace α) : ByPlace α
  | [] => others []
  | k :: place => if k = i then f place else others (k :: place)

@[simp] theorem operand_graft (f : ByPlace α) (i : Nat) (others : ByPlace α) :
    (f.graft i others).operand i = f :=
  funext fun _ => if_pos rfl

theorem operand_graft_of_ne {i k : Nat} (h : k ≠ i) (f others : ByPlace α) :
    (f.graft i others).operand k = others.operand k :=
  funext fun _ => if_neg h

end ByPlace

mutual
/-- What a tree comes to. -/
def result (answers : Answers) : Tree → Evaluated
  | .identity op => .ok (.bare op.identity)
  | .leaf _ => answers []
  | .combine op operands => op.joinOutcomes (results answers 0 operands)
/-- What operands that are numbered from `i` on come to. -/
def results (answers : Answers) (i : Nat) : List Tree → List Evaluated
  | [] => []
  | t :: ts => t.result (answers.operand i) :: results answers (i + 1) ts
end

mutual
/-- The occurrences of leaves that have to be visited, in their order. -/
def visited (answers : Answers) : Tree → List Occurrence
  | .identity _ => []
  | .leaf l => [⟨[], l⟩]
  | .combine op operands => visitedAll op answers 0 operands
/-- The same for operands that are numbered from `i` on. -/
def visitedAll (op : Connective) (answers : Answers) (i : Nat) : List Tree → List Occurrence
  | [] => []
  | t :: ts =>
    (t.visited (answers.operand i)).map (.under i) ++
      if op.stopsAt (t.result (answers.operand i)) then [] else visitedAll op answers (i + 1) ts
end

@[simp] theorem length_results (answers : Answers) (i : Nat) (ts : List Tree) :
    (results answers i ts).length = ts.length := by
  induction ts generalizing i with
  | nil => rfl
  | cons t ts ih => rw [results, List.length_cons, ih, List.length_cons]

theorem results_congr {answers answers' : Answers} {i : Nat}
    (h : ∀ k, i ≤ k → answers.operand k = answers'.operand k) (ts : List Tree) :
    results answers i ts = results answers' i ts := by
  induction ts generalizing i with
  | nil => rfl
  | cons t ts ih =>
      rw [results, results, h i (Nat.le_refl i), ih fun k hk => h k (Nat.le_of_succ_le hk)]

/-! ### What is visited -/

variable {answers : Answers}

/-- Operands are visited as long as none in front of them stops their node. -/
theorem mem_visitedAll_iff {op : Connective} {i : Nat} {ts : List Tree} {o : Occurrence} :
    o ∈ visitedAll op answers i ts ↔
      ∃ (k : Nat) (t : Tree), ts[k]? = some t ∧
        (∀ j < k, ∀ s, ts[j]? = some s → op.stopsAt (s.result (answers.operand (i + j))) = false) ∧
        ∃ o' ∈ t.visited (answers.operand (i + k)), o = o'.under (i + k) := by
  induction ts generalizing i with
  | nil => simp [visitedAll]
  | cons t ts ih =>
      have hshift : ∀ k, i + 1 + k = i + (k + 1) := fun k => by omega
      rw [visitedAll, List.mem_append, List.mem_map]
      constructor
      · rintro (⟨o', ho', rfl⟩ | ho)
        · exact ⟨0, t, rfl, fun j hj => absurd hj (Nat.not_lt_zero j), o', ho', rfl⟩
        · split at ho
          · exact absurd ho List.not_mem_nil
          · next hgoes =>
              obtain ⟨k, s, hk, hfront, o', ho', rfl⟩ := ih.mp ho
              refine ⟨k + 1, s, hk, fun j hj s' hs' => ?_, o', hshift k ▸ ho', by rw [hshift]⟩
              cases j with
              | zero =>
                  obtain rfl : t = s' := Option.some.inj hs'
                  exact Bool.eq_false_iff.mpr hgoes
              | succ j => exact hshift j ▸ hfront j (Nat.lt_of_succ_lt_succ hj) s' hs'
      · rintro ⟨k, s, hk, hfront, o', ho', rfl⟩
        cases k with
        | zero =>
            obtain rfl : t = s := Option.some.inj hk
            exact .inl ⟨o', ho', rfl⟩
        | succ k =>
            have hgoes := hfront 0 (Nat.succ_pos k) t rfl
            refine .inr ?_
            rw [Nat.add_zero] at hgoes
            rw [hgoes, if_neg Bool.false_ne_true]
            refine ih.mpr ⟨k, s, hk, fun j hj s' hs' => ?_, o', (hshift k).symm ▸ ho', ?_⟩
            · exact (hshift j).symm ▸ hfront (j + 1) (Nat.succ_lt_succ hj) s' hs'
            · rw [hshift]

/-- The leaves that are visited occur in the tree, and are visited in document order. -/
theorem visited_sublist (t : Tree) (answers : Answers) :
    (t.visited answers).Sublist t.occurrences := by
  induction t using operand_induction generalizing answers with
  | identity op => exact .slnil
  | leaf l => exact .refl _
  | combine op ts ih =>
      suffices h : ∀ i, (visitedAll op answers i ts).Sublist (occurrencesAll i ts) from h 0
      induction ts with
      | nil => exact fun i => .slnil
      | cons t ts ihs =>
          intro i
          rw [visitedAll, occurrencesAll]
          refine ((ih t List.mem_cons_self _).map _).append ?_
          split
          · exact List.nil_sublist _
          · exact ihs (fun s hs => ih s (List.mem_cons_of_mem _ hs)) (i + 1)

/-- No node of the tree joins operands with OR. -/
def IsOrFree (t : Tree) : Prop := ∀ place ts, t.nodeAt? place ≠ some (.combine .or ts)

theorem IsOrFree.operand {op : Connective} {ts : List Tree} (h : (combine op ts).IsOrFree)
    {t : Tree} (ht : t ∈ ts) : t.IsOrFree := by
  intro place ts' hnode
  obtain ⟨i, hi⟩ := List.getElem?_of_mem ht
  exact h (i :: place) ts' (by simp [hi, hnode])

theorem isOrFree_leaf (l : Leaf) : (leaf l).IsOrFree := by
  intro place ts h
  cases place <;> cases h

theorem isOrFree_and {ts : List Tree} (h : ∀ t ∈ ts, t.IsOrFree) : (combine .and ts).IsOrFree := by
  intro place ts' hnode
  cases place with
  | nil => cases hnode
  | cons i place =>
      rw [nodeAt?_combine_cons, Option.bind_eq_some_iff] at hnode
      obtain ⟨t, hi, hnode⟩ := hnode
      exact h t (List.mem_of_getElem? hi) place ts' hnode

/-- Without an OR, all leaves are visited. -/
theorem visited_eq_occurrences {t : Tree} (h : t.IsOrFree) (answers : Answers) :
    t.visited answers = t.occurrences := by
  induction t using operand_induction generalizing answers with
  | identity op => rfl
  | leaf l => rfl
  | combine op ts ih =>
      have hop : op = .and := by
        cases op with
        | and => rfl
        | or => exact absurd rfl (h [] ts)
      subst hop
      have operand : ∀ t ∈ ts, ∀ answers, t.visited answers = t.occurrences :=
        fun t ht => ih t ht (h.operand ht)
      suffices hall : ∀ i, visitedAll .and answers i ts = occurrencesAll i ts from hall 0
      clear h ih
      induction ts with
      | nil => exact fun i => rfl
      | cons t ts ihs =>
          intro i
          rw [visitedAll, occurrencesAll, operand t List.mem_cons_self, Connective.stopsAt_and,
            if_neg Bool.false_ne_true, ihs (fun s hs => operand s (List.mem_cons_of_mem _ hs))]

/-- Behind an operand that stops its node, nothing is visited. -/
theorem le_of_mem_visited {t : Tree} {place : Place} {op : Connective} {ts : List Tree} {k : Nat}
    {s : Tree} (hnode : t.nodeAt? place = some (.combine op ts)) (hk : ts[k]? = some s)
    (hstops : op.stopsAt (s.result (answers.below (place ++ [k]))) = true) {o : Occurrence}
    (ho : o ∈ t.visited answers) {j : Nat} {rest : Place} (hplace : o.place = place ++ j :: rest) :
    j ≤ k := by
  induction place generalizing t answers o with
  | nil =>
      rw [nodeAt?_nil] at hnode
      obtain rfl := Option.some.inj hnode
      obtain ⟨j', t, -, hfront, o, -, rfl⟩ := mem_visitedAll_iff.mp ho
      obtain ⟨rfl, -⟩ := List.cons.inj hplace
      rw [Nat.zero_add]
      by_contra hlt
      have hgoes := hfront k (Nat.lt_of_not_le hlt) s hk
      rw [Nat.zero_add] at hgoes
      exact absurd hstops (Bool.eq_false_iff.mp hgoes)
  | cons i place ih =>
      cases t with
      | identity op' => cases hnode
      | leaf l => cases hnode
      | combine op' ts' =>
          rw [nodeAt?_combine_cons, Option.bind_eq_some_iff] at hnode
          obtain ⟨t, hi, hnode⟩ := hnode
          obtain ⟨i', t', hi', -, o', ho', rfl⟩ := mem_visitedAll_iff.mp ho
          obtain ⟨rfl, hrest⟩ := List.cons.inj hplace
          rw [Nat.zero_add] at hi ho' hstops
          obtain rfl : t' = t := Option.some.inj (hi'.symm.trans hi)
          exact ih hnode hstops ho' hrest

end Tree

end RunRadar
