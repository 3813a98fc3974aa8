import RunRadar.Proofs.Engine.Rounds
import RunRadar.Proofs.Engine.Visit

/-!
# RunRadar.Proofs.Engine.Order

The **order of visits**. A leaf that is waited for holds up what stands behind it in its operand of
an AND, while the operands behind that one have their turn. Leaves are visited in rounds that way
(`Tree.rounds`).

That is document order with one exception, `Tree.Overtakes`. It takes a leaf that is waited for and
stands in an OR, so there is no exception in a tree without OR, and none where nothing is waited
for.
-/

namespace RunRadar

namespace Tree

/-! ### Visits in rounds -/

/-- How many rounds the answer of each leaf is waited for. -/
abbrev Turns := ByPlace Nat

mutual
/-- The rounds in which the leaves are visited that have to be. -/
def rounds (answers : Answers) (turns : Turns) : Tree → Rounds Occurrence
  | .identity _ => [[]]
  | .leaf l => [⟨[], l⟩] :: List.replicate (turns []) []
  | .combine op operands => roundsAll op answers turns 0 operands
/-- The same for operands that are numbered from `i` on. -/
def roundsAll (op : Connective) (answers : Answers) (turns : Turns) (i : Nat) :
    List Tree → Rounds Occurrence
  | [] => [[]]
  | t :: ts =>
    op.arrange ((t.rounds (answers.operand i) (turns.operand i)).map (List.map (.under i)))
      (if op.stopsAt (t.result (answers.operand i)) then [[]]
        else roundsAll op answers turns (i + 1) ts)
end

theorem roundsAll_congr {answers answers' : Answers} {turns turns' : Turns} {i : Nat}
    (h : ∀ k, i ≤ k → answers.operand k = answers'.operand k ∧ turns.operand k = turns'.operand k)
    (op : Connective) (ts : List Tree) :
    roundsAll op answers turns i ts = roundsAll op answers' turns' i ts := by
  induction ts generalizing i with
  | nil => rfl
  | cons t ts ih =>
      obtain ⟨hanswers, hturns⟩ := h i (Nat.le_refl i)
      rw [roundsAll, roundsAll, hanswers, hturns, ih fun k hk => h k (Nat.le_of_succ_le hk)]

/-- The order in which leaves are visited. -/
def order (answers : Answers) (turns : Turns) (t : Tree) : List Occurrence :=
  (t.rounds answers turns).flatten

theorem flatten_rounds_under (xs : Rounds Occurrence) (i : Nat) :
    (xs.map (List.map (Occurrence.under i))).flatten = xs.flatten.map (.under i) :=
  List.map_flatten.symm

theorem roundsAll_perm_visitedAll {ts : List Tree}
    (operand : ∀ t ∈ ts, ∀ answers turns, (t.order answers turns).Perm (t.visited answers))
    (op : Connective) (answers : Answers) (turns : Turns) (i : Nat) :
    (roundsAll op answers turns i ts).flatten.Perm (visitedAll op answers i ts) := by
  induction ts generalizing i with
  | nil => exact .refl _
  | cons t ts ih =>
      rw [roundsAll, visitedAll]
      refine (op.flatten_arrange_perm _ _).trans (List.Perm.append ?_ ?_)
      · rw [flatten_rounds_under]
        exact (operand t List.mem_cons_self _ _).map _
      · split
        · exact .refl _
        · exact ih (fun s hs => operand s (List.mem_cons_of_mem _ hs)) (i + 1)

/-- In rounds or not, the same leaves are visited. -/
theorem order_perm_visited (t : Tree) (answers : Answers) (turns : Turns) :
    (t.order answers turns).Perm (t.visited answers) := by
  induction t using operand_induction generalizing answers turns with
  | identity op => exact .refl _
  | leaf l => simp [order, rounds, visited]
  | combine op ts ih => exact roundsAll_perm_visitedAll ih op answers turns 0

/-! ### Overtaking -/

/-- At a node of some connective, the first place is in an operand in front of that of the second
one. -/
def Precedes (t : Tree) (op : Connective) (p q : Place) : Prop :=
  ∃ place ts i j p' q', t.nodeAt? place = some (.combine op ts) ∧ i < j ∧
    p = place ++ i :: p' ∧ q = place ++ j :: q'

/-- A visit comes before that of an earlier leaf in the tree. Then the earlier leaf is in an earlier
operand of an AND. There it stands behind another leaf, in an OR, and that one has been visited and
is waited for. -/
def Overtakes (t : Tree) (turns : Turns) (order : List Occurrence) (o o' : Occurrence) : Prop :=
  t.Precedes .and o'.place o.place ∧
    ∃ w, [w, o, o'].Sublist order ∧ turns w.place ≠ 0 ∧ t.Precedes .or w.place o'.place ∧
      t.Precedes .and w.place o.place

section Precedes

variable {t : Tree} {op : Connective} {ts : List Tree} {p q : Place}

theorem Precedes.lt (h : t.Precedes op p q) : p < q := by
  obtain ⟨place, _, i, j, p', q', -, hij, rfl, rfl⟩ := h
  induction place with
  | nil => exact List.cons_lt_cons_iff.mpr (.inl hij)
  | cons k place ih => exact List.cons_lt_cons_iff.mpr (.inr ⟨rfl, ih⟩)

theorem Precedes.operand {op' : Connective} {i : Nat} (hi : ts[i]? = some t)
    (h : t.Precedes op p q) : (combine op' ts).Precedes op (i :: p) (i :: q) := by
  obtain ⟨place, ts', j, k, p', q', hnode, hjk, rfl, rfl⟩ := h
  exact ⟨i :: place, ts', j, k, p', q', by simp [hi, hnode], hjk, rfl, rfl⟩

/-- Operands of a node precede one another in their order. -/
theorem precedes_of_lt {i j : Nat} (h : i < j) : (combine op ts).Precedes op (i :: p) (j :: q) :=
  ⟨[], ts, i, j, p, q, rfl, h, rfl, rfl⟩

theorem IsOrFree.not_precedes (h : t.IsOrFree) : ¬ t.Precedes .or p q := by
  rintro ⟨place, ts, -, -, -, -, hnode, -⟩
  exact h place ts hnode

end Precedes

/-- What the rounds of a tree have to do with waiting: there is a second round only if something in
the first one is waited for, all that happens in later rounds stands behind something of that kind
in an OR, and leaves overtake others only in that way. -/
structure Paced (t : Tree) (turns : Turns) (xs : Rounds Occurrence) : Prop where
  waits : xs.tail ≠ [] → ∃ w ∈ xs.headD [], turns w.place ≠ 0
  later : ∀ o ∈ xs.tail.flatten,
    ∃ w ∈ xs.headD [], turns w.place ≠ 0 ∧ t.Precedes .or w.place o.place
  overtakes : ∀ o o', [o, o'].Sublist xs.flatten → o'.place < o.place →
    t.Overtakes turns xs.flatten o o'

section Paced

variable {t : Tree} {turns : Turns} {x y : List Occurrence} {xs ys : Rounds Occurrence}

theorem Overtakes.mono {order order' : List Occurrence} {o o' : Occurrence}
    (h : t.Overtakes turns order o o') (hsub : order.Sublist order') :
    t.Overtakes turns order' o o' := by
  obtain ⟨hand, w, hw, hrest⟩ := h
  exact ⟨hand, w, hw.trans hsub, hrest⟩

/-- Waiting for a single leaf, or for nothing at all, nothing else happens. -/
theorem paced_alone (x : List Occurrence) (n : Nat) (hx : x.length ≤ 1)
    (h : n ≠ 0 → ∃ w ∈ x, turns w.place ≠ 0) :
    Paced t turns (x :: List.replicate n []) where
  waits hn := h (by simpa using hn)
  later o ho := by simp at ho
  overtakes o o' hsub := by
    have hlength := hsub.length_le
    simp at hlength
    omega

/-- In an operand, rounds are paced as they are by themselves. -/
theorem Paced.under {op : Connective} {ts : List Tree} {i : Nat} (hi : ts[i]? = some t)
    (h : Paced t (turns.operand i) xs) :
    Paced (combine op ts) turns (xs.map (List.map (.under i))) := by
  have hhead : (xs.map (List.map (Occurrence.under i))).headD [] =
      (xs.headD []).map (.under i) := by
    cases xs <;> rfl
  refine ⟨fun hne => ?_, fun o ho => ?_, fun o o' hsub hlt => ?_⟩
  · have htail : xs.tail ≠ [] := fun htail => hne (by rw [← List.map_tail, htail, List.map_nil])
    obtain ⟨w, hw, hturns⟩ := h.waits htail
    exact ⟨w.under i, hhead ▸ List.mem_map_of_mem hw, hturns⟩
  · rw [← List.map_tail, flatten_rounds_under, List.mem_map] at ho
    obtain ⟨o, ho, rfl⟩ := ho
    obtain ⟨w, hw, hturns, hor⟩ := h.later o ho
    exact ⟨w.under i, hhead ▸ List.mem_map_of_mem hw, hturns, hor.operand hi⟩
  · rw [flatten_rounds_under] at hsub ⊢
    obtain ⟨pair, hpair, heq⟩ := List.sublist_map_iff.mp hsub
    obtain ⟨o, o', rfl, rfl, rfl⟩ : ∃ a b, pair = [a, b] ∧ o = a.under i ∧ o' = b.under i := by
      match pair, heq with
      | [a, b], heq => exact ⟨a, b, rfl, by simpa using heq⟩
    obtain ⟨hand, w, hw, hturns, hor, hand'⟩ := h.overtakes o o' hpair (by simpa using hlt)
    exact ⟨hand.operand hi, w.under i, hw.map (Occurrence.under i), hturns, hor.operand hi,
      hand'.operand hi⟩

/-- Of what is done in sequence, the rest is waited for as well. -/
theorem Paced.inSequence (hx : Paced t turns (x :: xs)) (hy : Paced t turns (y :: ys))
    (hor : ∀ o ∈ (x :: xs).flatten, ∀ o' ∈ (y :: ys).flatten, t.Precedes .or o.place o'.place) :
    Paced t turns (Rounds.inSequence (x :: xs) (y :: ys)) := by
  have hflatten := Rounds.flatten_inSequence (x :: xs) (y :: ys)
  refine ⟨?_, ?_, fun o o' hsub hlt => ?_⟩
  · cases xs with
    | nil =>
        intro hne
        obtain ⟨w, hw, hturns⟩ := hy.waits hne
        exact ⟨w, List.mem_append_right x hw, hturns⟩
    | cons x' xs => exact fun _ => hx.waits (List.cons_ne_nil x' xs)
  · cases xs with
    | nil =>
        intro o ho
        obtain ⟨w, hw, hrest⟩ := hy.later o ho
        exact ⟨w, List.mem_append_right x hw, hrest⟩
    | cons x' xs =>
        intro o ho
        rw [Rounds.inSequence, List.tail_cons, Rounds.flatten_inSequence, List.mem_append] at ho
        rcases ho with ho | ho
        · exact hx.later o ho
        · obtain ⟨w, hw, hturns⟩ := hx.waits (List.cons_ne_nil x' xs)
          exact ⟨w, hw, hturns, hor w (List.mem_append_left _ hw) o ho⟩
  · rw [hflatten] at hsub ⊢
    obtain ⟨l, l', hl, hsub, hsub'⟩ := List.sublist_append_iff.mp hsub
    rcases l with _ | ⟨a, _ | ⟨b, l⟩⟩
    · obtain rfl : [o, o'] = l' := hl
      exact (hy.overtakes o o' hsub' hlt).mono (List.sublist_append_right _ _)
    · obtain ⟨rfl, rfl⟩ : o = a ∧ [o'] = l' := List.cons.inj hl
      have hprecedes := hor o (List.singleton_sublist.mp hsub) o' (List.singleton_sublist.mp hsub')
      exact absurd hprecedes.lt (List.lt_asymm hlt)
    · obtain ⟨rfl, rfl, rfl, rfl⟩ : o = a ∧ o' = b ∧ l = [] ∧ l' = [] := by simpa using hl
      exact (hx.overtakes o o' hsub hlt).mono (List.sublist_append_left _ _)

/-- Of what is done side by side, a later operand may overtake an earlier one that waits. -/
theorem Paced.sideBySide (hx : Paced t turns (x :: xs)) (hy : Paced t turns (y :: ys))
    (hand : ∀ o ∈ (x :: xs).flatten, ∀ o' ∈ (y :: ys).flatten, t.Precedes .and o.place o'.place) :
    Paced t turns (Rounds.sideBySide (x :: xs) (y :: ys)) := by
  refine ⟨fun hne => ?_, fun o ho => ?_, fun o o' hsub hlt => ?_⟩
  · by_cases hxs : xs = []
    · obtain ⟨w, hw, hturns⟩ := hy.waits (by simpa [Rounds.sideBySide, hxs] using hne)
      exact ⟨w, List.mem_append_right x hw, hturns⟩
    · obtain ⟨w, hw, hturns⟩ := hx.waits hxs
      exact ⟨w, List.mem_append_left y hw, hturns⟩
  · rcases Rounds.mem_sideBySide.mp ho with ho | ho
    · obtain ⟨w, hw, hrest⟩ := hx.later o ho
      exact ⟨w, List.mem_append_left y hw, hrest⟩
    · obtain ⟨w, hw, hrest⟩ := hy.later o ho
      exact ⟨w, List.mem_append_right x hw, hrest⟩
  · have apart : ∀ a, a ∈ (x :: xs).flatten → a ∉ (y :: ys).flatten := fun a ha ha' =>
      List.lt_irrefl a.place (hand a ha a ha').lt
    obtain ⟨hfirst, hsecond⟩ := Rounds.flatten_sublist_sideBySide (x :: xs) (y :: ys)
    have hmem := fun a ha => Rounds.mem_sideBySide.mp (hsub.subset (a := a) ha)
    -- each of the two comes in its own order, so only pairs with one of each are new
    rcases hmem o (by simp) with ho | ho <;> rcases hmem o' (by simp) with ho' | ho'
    · have hown : [o, o'].Sublist (x :: xs).flatten :=
        Rounds.sublist_first_of_sideBySide hsub
          (List.forall_mem_cons.mpr ⟨apart o ho, List.forall_mem_singleton.mpr (apart o' ho')⟩)
      exact (hx.overtakes o o' hown hlt).mono hfirst
    · exact absurd (hand o ho o' ho').lt (List.lt_asymm hlt)
    · -- the earlier leaf comes in a later round, behind one that is waited for in the first round
      obtain ⟨hlater, hbehind⟩ := Rounds.mem_later_of_sideBySide hsub
        (fun hmem => apart o (List.mem_append_left _ hmem) ho) (apart o' ho')
      obtain ⟨w, hw, hturns, hor⟩ := hx.later o' hlater
      refine ⟨hand o' ho' o ho, w, ?_, hturns, hor, hand w (List.mem_append_left _ hw) o ho⟩
      rw [Rounds.sideBySide, List.flatten_cons, List.append_assoc]
      exact (List.singleton_sublist.mpr hw).append hbehind
    · have hown : [o, o'].Sublist (y :: ys).flatten :=
        Rounds.sublist_second_of_sideBySide hsub
          (List.forall_mem_cons.mpr ⟨fun h => apart o h ho,
            List.forall_mem_singleton.mpr fun h => apart o' h ho'⟩)
      exact (hy.overtakes o o' hown hlt).mono hsecond

theorem Paced.arrange (op : Connective) (hx : Paced t turns xs) (hy : Paced t turns ys)
    (h : ∀ o ∈ xs.flatten, ∀ o' ∈ ys.flatten, t.Precedes op o.place o'.place) :
    Paced t turns (op.arrange xs ys) := by
  cases xs with
  | nil => cases op <;> exact hy
  | cons x xs =>
      cases ys with
      | nil =>
          cases op with
          | and => exact hx
          | or =>
              rw [Connective.arrange, Rounds.inSequence_nil]
              exact hx
      | cons y ys =>
          cases op with
          | and => exact hx.sideBySide hy h
          | or => exact hx.inSequence hy h

/-- In operands that are numbered from `i` on, nothing is visited in front of them. -/
theorem exists_place_of_mem_roundsAll {op : Connective} {answers : Answers} {i : Nat}
    {ts : List Tree} {o : Occurrence} (ho : o ∈ (roundsAll op answers turns i ts).flatten) :
    ∃ k place, i ≤ k ∧ o.place = k :: place := by
  have hperm : (roundsAll op answers turns i ts).flatten.Perm (visitedAll op answers i ts) :=
    roundsAll_perm_visitedAll (fun t _ => t.order_perm_visited) op answers turns i
  obtain ⟨k, _, -, -, o, -, rfl⟩ := mem_visitedAll_iff.mp (hperm.mem_iff.mp ho)
  exact ⟨i + k, o.place, Nat.le_add_right i k, rfl⟩

end Paced

/-- The rounds of every tree are paced. -/
theorem paced_rounds (t : Tree) (answers : Answers) (turns : Turns) :
    Paced t turns (t.rounds answers turns) := by
  induction t using operand_induction generalizing answers turns with
  | identity op => exact paced_alone [] 0 (Nat.zero_le 1) (absurd rfl)
  | leaf l =>
      exact paced_alone [⟨[], l⟩] _ (Nat.le_refl 1) fun h => ⟨_, List.mem_singleton_self _, h⟩
  | combine op ts ih =>
      suffices h : ∀ i rest, (∀ k s, rest[k]? = some s → ts[i + k]? = some s) →
          Paced (combine op ts) turns (roundsAll op answers turns i rest) from
        h 0 ts fun k s hs => (Nat.zero_add k).symm ▸ hs
      intro i rest hrest
      induction rest generalizing i with
      | nil => exact paced_alone [] 0 (Nat.zero_le 1) (absurd rfl)
      | cons t rest ihs =>
          have hi : ts[i]? = some t := hrest 0 t rfl
          rw [roundsAll]
          refine Paced.arrange op (.under hi (ih t (List.mem_of_getElem? hi) _ _)) ?_ ?_
          · split
            · exact paced_alone [] 0 (Nat.zero_le 1) (absurd rfl)
            · refine ihs (i + 1) fun k s hs => ?_
              rw [Nat.add_right_comm]
              exact hrest (k + 1) s hs
          · intro o ho o' ho'
            rw [flatten_rounds_under, List.mem_map] at ho
            obtain ⟨o, -, rfl⟩ := ho
            split at ho'
            · simp at ho'
            · obtain ⟨k, place, hk, hplace⟩ := exists_place_of_mem_roundsAll ho'
              exact hplace ▸ precedes_of_lt hk

/-! ### Document order -/

section Order

variable (t : Tree) (answers : Answers) (turns : Turns)

theorem order_overtakes {o o' : Occurrence} (hsub : [o, o'].Sublist (t.order answers turns))
    (hlt : o'.place < o.place) : t.Overtakes turns (t.order answers turns) o o' :=
  (t.paced_rounds answers turns).overtakes o o' hsub hlt

variable {t answers turns}

/-- If nothing overtakes, leaves are visited in document order. -/
theorem order_eq_visited
    (h : ∀ o o', ¬ t.Overtakes turns (t.order answers turns) o o') :
    t.order answers turns = t.visited answers := by
  have hvisited : (t.visited answers).Pairwise (·.place < ·.place) :=
    t.occurrences_increase.sublist (t.visited_sublist answers)
  have hperm := t.order_perm_visited answers turns
  have hapart : (t.order answers turns).Pairwise fun o o' => o.place ≠ o'.place := by
    refine (hperm.pairwise_iff fun h => h.symm).mpr (hvisited.imp fun hlt heq => ?_)
    exact List.lt_irrefl _ (heq ▸ hlt)
  have horder : (t.order answers turns).Pairwise (·.place < ·.place) := by
    rw [List.pairwise_iff_forall_sublist] at hapart ⊢
    intro o o' hsub
    have hge : ¬ o'.place < o.place := fun hlt => h o o' (t.order_overtakes answers turns hsub hlt)
    by_cases hlt : o.place < o'.place
    · exact hlt
    · exact absurd (Std.Trichotomous.trichotomous _ _ hlt hge) (hapart hsub)
  refine hperm.eq_of_pairwise (fun o o' _ _ hlt hgt => ?_) horder hvisited
  exact absurd hgt (List.lt_asymm hlt)

/-- So they are if nothing is waited for. -/
theorem order_eq_visited_of_prompt (h : ∀ o ∈ t.order answers turns, turns o.place = 0) :
    t.order answers turns = t.visited answers := by
  refine order_eq_visited fun o o' hovertakes => ?_
  obtain ⟨-, w, hw, hturns, -⟩ := hovertakes
  exact hturns (h w (hw.subset List.mem_cons_self))

/-- And without an OR all leaves are, however long they are waited for. -/
theorem order_eq_occurrences (h : t.IsOrFree) (answers : Answers) (turns : Turns) :
    t.order answers turns = t.occurrences := by
  rw [order_eq_visited fun o o' hovertakes => ?_, visited_eq_occurrences h]
  obtain ⟨-, w, -, -, hor, -⟩ := hovertakes
  exact h.not_precedes hor

end Order

end Tree

end RunRadar
