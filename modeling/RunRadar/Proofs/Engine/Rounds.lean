import Mathlib.Data.List.Forall2
import RunRadar.Tree.Basic

/-!
# RunRadar.Proofs.Engine.Rounds

What is done **in rounds**. Operands of an AND have their turns side by side, round by round
(`Rounds.sideBySide`). Those of an OR come one after the other, and the next one starts in the very
round in which the one in front of it ends (`Rounds.inSequence`).
-/

namespace RunRadar

/-- What is done in rounds, each of them in its order. -/
abbrev Rounds (α : Type) := List (List α)

namespace Rounds

variable {α β : Type}

/-- Both in each round, the first one first, for as long as each of them lasts. -/
def sideBySide : Rounds α → Rounds α → Rounds α
  | [], ys => ys
  | x :: xs, [] => x :: xs
  | x :: xs, y :: ys => (x ++ y) :: sideBySide xs ys

/-- The second one from the round on in which the first one ends. -/
def inSequence : Rounds α → Rounds α → Rounds α
  | [], ys => ys
  | [x], [] => [x]
  | [x], y :: ys => (x ++ y) :: ys
  | x :: x' :: xs, ys => x :: inSequence (x' :: xs) ys

@[simp] theorem inSequence_nil (xs : Rounds α) : inSequence xs [] = xs := by
  match xs with
  | [] => rfl
  | [x] => rfl
  | x :: x' :: xs => rw [inSequence, inSequence_nil (x' :: xs)]

/-- Nothing is done behind something in the same round. -/
theorem inSequence_nothing (x : List α) (xs : Rounds α) :
    inSequence (x :: xs) [[]] = x :: xs := by
  induction xs generalizing x with
  | nil => rw [inSequence, List.append_nil]
  | cons x' xs ih => rw [inSequence, ih x']

theorem sideBySide_nothing (x : List α) (xs : Rounds α) :
    sideBySide (x :: xs) [[]] = x :: xs := by
  cases xs <;> simp [sideBySide]

theorem flatten_inSequence (xs ys : Rounds α) :
    (inSequence xs ys).flatten = xs.flatten ++ ys.flatten := by
  induction xs, ys using inSequence.induct with
  | case1 ys => rfl
  | case2 x => simp [inSequence]
  | case3 x y ys => simp [inSequence]
  | case4 x x' xs ys ih => simp [inSequence, ih]

theorem flatten_sideBySide_perm (xs ys : Rounds α) :
    (sideBySide xs ys).flatten.Perm (xs.flatten ++ ys.flatten) := by
  induction xs, ys using sideBySide.induct with
  | case1 ys => exact .refl _
  | case2 x xs => simp [sideBySide]
  | case3 x xs y ys ih =>
      simp only [sideBySide, List.flatten_cons, List.append_assoc]
      refine List.Perm.append_left x ((ih.append_left y).trans ?_)
      rw [← List.append_assoc, ← List.append_assoc]
      exact List.perm_append_comm.append_right ys.flatten

theorem mem_sideBySide {xs ys : Rounds α} {a : α} :
    a ∈ (sideBySide xs ys).flatten ↔ a ∈ xs.flatten ∨ a ∈ ys.flatten := by
  rw [(flatten_sideBySide_perm xs ys).mem_iff, List.mem_append]

theorem flatten_sublist_sideBySide (xs ys : Rounds α) :
    xs.flatten.Sublist (sideBySide xs ys).flatten ∧
      ys.flatten.Sublist (sideBySide xs ys).flatten := by
  induction xs, ys using sideBySide.induct with
  | case1 ys => exact ⟨List.nil_sublist _, .refl _⟩
  | case2 x xs => exact ⟨.refl _, List.nil_sublist _⟩
  | case3 x xs y ys ih =>
      rw [sideBySide, List.flatten_cons, List.flatten_cons, List.flatten_cons]
      exact ⟨(List.sublist_append_left x y).append ih.1,
        (List.sublist_append_right x y).append ih.2⟩

section Own

variable {xs ys : Rounds α} {l : List α}

theorem sublist_left_of_append {x y : List α} (h : l.Sublist (x ++ y)) (hy : ∀ a ∈ l, a ∉ y) :
    l.Sublist x := by
  obtain ⟨front, behind, rfl, hfront, hbehind⟩ := List.sublist_append_iff.mp h
  obtain rfl : behind = [] := List.eq_nil_iff_forall_not_mem.mpr fun a ha =>
    hy a (List.mem_append_right _ ha) (hbehind.subset ha)
  rwa [List.append_nil]

theorem sublist_right_of_append {x y : List α} (h : l.Sublist (x ++ y))
    (hx : ∀ a ∈ l.head?, a ∉ x) : l.Sublist y := by
  obtain ⟨front, behind, rfl, hfront, hbehind⟩ := List.sublist_append_iff.mp h
  cases front with
  | nil => exact hbehind
  | cons a front => exact absurd (hfront.subset List.mem_cons_self) (hx a rfl)

/-- What is not in the second one comes in the order of the first one. -/
theorem sublist_first_of_sideBySide (h : l.Sublist (sideBySide xs ys).flatten)
    (hy : ∀ a ∈ l, a ∉ ys.flatten) : l.Sublist xs.flatten := by
  induction xs, ys using sideBySide.induct generalizing l with
  | case1 ys => exact sublist_left_of_append (x := []) h hy
  | case2 x xs => exact h
  | case3 x xs y ys ih =>
      rw [sideBySide, List.flatten_cons] at h
      obtain ⟨front, behind, rfl, hfront, hbehind⟩ := List.sublist_append_iff.mp h
      simp only [List.flatten_cons, List.mem_append, not_or] at hy
      rw [List.flatten_cons]
      refine List.Sublist.append (sublist_left_of_append hfront fun a ha => ?_)
        (ih hbehind fun a ha => ?_)
      · exact (hy a (.inl ha)).1
      · exact (hy a (.inr ha)).2

/-- What is not in the first one comes in the order of the second one. -/
theorem sublist_second_of_sideBySide (h : l.Sublist (sideBySide xs ys).flatten)
    (hx : ∀ a ∈ l, a ∉ xs.flatten) : l.Sublist ys.flatten := by
  induction xs, ys using sideBySide.induct generalizing l with
  | case1 ys => exact h
  | case2 x xs =>
      refine sublist_right_of_append (h.trans (List.sublist_append_left _ _)) fun a ha => ?_
      exact hx a (List.mem_of_mem_head? ha)
  | case3 x xs y ys ih =>
      rw [sideBySide, List.flatten_cons] at h
      obtain ⟨front, behind, rfl, hfront, hbehind⟩ := List.sublist_append_iff.mp h
      simp only [List.flatten_cons, List.mem_append, not_or] at hx
      rw [List.flatten_cons]
      refine List.Sublist.append (sublist_right_of_append hfront fun a ha => ?_)
        (ih hbehind fun a ha => ?_)
      · exact (hx a (.inl (List.mem_of_mem_head? ha))).1
      · exact (hx a (.inr ha)).2

/-- What comes behind something of the second one, but belongs to the first one, is done in a later
round. -/
theorem mem_later_of_sideBySide {x y : List α} {a b : α}
    (h : [a, b].Sublist (sideBySide (x :: xs) (y :: ys)).flatten) (ha : a ∉ x)
    (hb : b ∉ (y :: ys).flatten) :
    b ∈ xs.flatten ∧ [a, b].Sublist (y ++ (sideBySide xs ys).flatten) := by
  rw [sideBySide, List.flatten_cons, List.append_assoc] at h
  have hbehind : [a, b].Sublist (y ++ (sideBySide xs ys).flatten) := by
    refine sublist_right_of_append h fun c hc => ?_
    obtain rfl : a = c := Option.some.inj hc
    exact ha
  refine ⟨?_, hbehind⟩
  rcases List.mem_append.mp (hbehind.subset (a := b) (by simp)) with hlist | hrest
  · exact absurd (List.mem_append_left _ hlist) hb
  · exact (mem_sideBySide.mp hrest).resolve_right fun hlist => hb (List.mem_append_right y hlist)

end Own

theorem forall₂_replicate_nil {R : α → β → Prop} (n : Nat) :
    List.Forall₂ (List.Forall₂ R) (List.replicate n []) (List.replicate n []) := by
  induction n with
  | zero => exact .nil
  | succ n ih => exact .cons .nil ih

/-- Pairs that have something in common have it in rounds as well. -/
theorem forall₂_sideBySide {R : α → β → Prop} {xs ys : Rounds α} {xs' ys' : Rounds β}
    (hx : List.Forall₂ (List.Forall₂ R) xs xs') (hy : List.Forall₂ (List.Forall₂ R) ys ys') :
    List.Forall₂ (List.Forall₂ R) (sideBySide xs ys) (sideBySide xs' ys') := by
  induction hx generalizing ys ys' with
  | nil => exact hy
  | cons hx hxs ih =>
      cases hy with
      | nil => exact .cons hx hxs
      | cons hy hys => exact .cons (List.rel_append hx hy) (ih hys)

theorem forall₂_inSequence {R : α → β → Prop} {xs ys : Rounds α} {xs' ys' : Rounds β}
    (hx : List.Forall₂ (List.Forall₂ R) xs xs') (hy : List.Forall₂ (List.Forall₂ R) ys ys') :
    List.Forall₂ (List.Forall₂ R) (inSequence xs ys) (inSequence xs' ys') := by
  induction hx generalizing ys ys' with
  | nil => exact hy
  | cons hx hxs ih =>
      cases hxs with
      | nil =>
          cases hy with
          | nil => exact .cons hx .nil
          | cons hy hys => exact .cons (List.rel_append hx hy) hys
      | cons hx' hxs => exact .cons hx (ih hy)

end Rounds

/-- How the operands of a node follow on one another. -/
def Connective.arrange {α : Type} : Connective → Rounds α → Rounds α → Rounds α
  | .and => Rounds.sideBySide
  | .or => Rounds.inSequence

theorem Connective.flatten_arrange_perm {α : Type} (op : Connective) (xs ys : Rounds α) :
    (op.arrange xs ys).flatten.Perm (xs.flatten ++ ys.flatten) := by
  cases op with
  | and => exact Rounds.flatten_sideBySide_perm xs ys
  | or => exact .of_eq (Rounds.flatten_inSequence xs ys)

theorem Connective.forall₂_arrange {α β : Type} (op : Connective) {R : α → β → Prop}
    {xs ys : Rounds α} {xs' ys' : Rounds β} (hx : List.Forall₂ (List.Forall₂ R) xs xs')
    (hy : List.Forall₂ (List.Forall₂ R) ys ys') :
    List.Forall₂ (List.Forall₂ R) (op.arrange xs ys) (op.arrange xs' ys') := by
  cases op with
  | and => exact Rounds.forall₂_sideBySide hx hy
  | or => exact Rounds.forall₂_inSequence hx hy

end RunRadar
