import RunRadar.Text.Search

/-!
# RunRadar.Proofs.Text.Lowering

**Lower-casing a part of a text**. What stands in front of a part and behind it only matters to the
capital sigmas in it: a part becomes what it would become alone exactly when each of these does
(`lowerBetween_eq_iff`). There it makes no difference where a part begins or ends unless a letter
is next to it (`keepsSigmas_of_delimits`).
-/

namespace RunRadar.Text

/-! ### Between other characters -/

/-- The lower-case form of characters between `before`, nearest first, and `after`. -/
def lowerBetween : (before cs after : List Char) → List Char
  | _, [], _ => []
  | before, c :: rest, after =>
    (if c = 'Σ' then [lowerSigma before (rest ++ after)] else lowerChar c) ++
      lowerBetween (c :: before) rest after

/-- A text is lower-cased part by part, each part in its place. -/
theorem lowerAfter_append (before cs after : List Char) :
    lowerAfter before (cs ++ after) =
      lowerBetween before cs after ++ lowerAfter (cs.reverse ++ before) after := by
  induction cs generalizing before with
  | nil => rfl
  | cons c rest ih =>
      rw [List.cons_append, lowerAfter, ih, lowerBetween, List.reverse_cons, List.append_assoc,
        List.append_assoc]
      rfl

/-- Characters inside a text are found in the lower-cased text as they become in their place. -/
theorem lowerBetween_infix (before cs after : List Char) :
    lowerBetween before.reverse cs after <:+: lowerChars (before ++ cs ++ after) := by
  rw [lowerChars, List.append_assoc, lowerAfter_append, lowerAfter_append, List.append_nil]
  exact ⟨_, _, List.append_assoc _ _ _⟩

/-! ### Sigmas -/

/-- Whether the capital sigmas of a text become the same between `before`, nearest first, and
`after` as they do alone. -/
def KeepsSigmas (before cs after : List Char) : Prop :=
  ∀ front back, cs = front ++ 'Σ' :: back →
    lowerSigma (front.reverse ++ before) (back ++ after) = lowerSigma front.reverse back

/-- A sigma is the first character, or it stands behind that. -/
theorem forall_sigma_cons {c : Char} {rest : List Char} {P : List Char → List Char → Prop} :
    (∀ front back, c :: rest = front ++ 'Σ' :: back → P front back) ↔
      (c = 'Σ' → P [] rest) ∧
        ∀ front back, rest = front ++ 'Σ' :: back → P (c :: front) back := by
  constructor
  · intro h
    refine ⟨?_, ?_⟩
    · rintro rfl
      exact h [] rest rfl
    · rintro front back rfl
      exact h (c :: front) back rfl
  · rintro ⟨hfirst, hrest⟩ front back h
    rcases List.cons_eq_append_iff.mp h with ⟨rfl, hback⟩ | ⟨front', rfl, hback⟩
    · cases hback
      exact hfirst rfl
    · exact hrest front' back hback

/-- What a text becomes behind further characters of its own, compared between other characters and
alone. -/
theorem lowerBetween_append_eq_iff (inner before cs after : List Char) :
    lowerBetween (inner ++ before) cs after = lowerAfter inner cs ↔
      ∀ front back, cs = front ++ 'Σ' :: back →
        lowerSigma (front.reverse ++ (inner ++ before)) (back ++ after) =
          lowerSigma (front.reverse ++ inner) back := by
  -- each character of `cs` moves to `inner` once it is lower-cased, and `before` stays apart
  induction cs generalizing inner with
  | nil => simp [lowerBetween, lowerAfter]
  | cons c rest ih =>
      have hrest := ih (c :: inner)
      simp only [List.cons_append] at hrest
      rw [forall_sigma_cons, lowerBetween, lowerAfter]
      simp only [List.reverse_cons, List.append_assoc, List.singleton_append, ← hrest]
      by_cases hc : c = 'Σ'
      · simp [hc]
      · simp [hc]

/-- Between other characters a text becomes what it becomes alone exactly when its sigmas do. -/
theorem lowerBetween_eq_iff {before cs after : List Char} :
    lowerBetween before cs after = lowerChars cs ↔ KeepsSigmas before cs after := by
  have h := lowerBetween_append_eq_iff [] before cs after
  simp only [List.nil_append, List.append_nil] at h
  exact h

/-- Then it is found, lower-cased, where it stands. -/
theorem KeepsSigmas.infix {before cs after : List Char}
    (h : KeepsSigmas before.reverse cs after) :
    lowerChars cs <:+: lowerChars (before ++ cs ++ after) := by
  rw [← lowerBetween_eq_iff.mpr h]
  exact lowerBetween_infix before cs after

/-! ### Where sigmas stay what they are -/

theorem keepsSigmas_of_not_mem {before cs after : List Char} (h : 'Σ' ∉ cs) :
    KeepsSigmas before cs after := by
  rintro front back rfl
  exact absurd (List.mem_append_right _ List.mem_cons_self) h

/-- Whether characters begin with none that has to do with case, if there are any: neither with a
cased one nor with one that is ignored when a cased one is looked for. -/
def Delimits (cs : List Char) : Prop :=
  ∀ c, cs.head? = some c → caseIgnorable.contains c.toNat = false ∧ cased.contains c.toNat = false

theorem meetsCased_cons (c : Char) (rest : List Char) :
    meetsCased (c :: rest) =
      if caseIgnorable.contains c.toNat then meetsCased rest else cased.contains c.toNat := by
  unfold meetsCased
  rw [List.dropWhile_cons]
  by_cases h : caseIgnorable.contains c.toNat = true
  · rw [if_pos h, if_pos h]
  · rw [if_neg h, if_neg h]

/-- Nothing cased is met beyond what sets a text apart. -/
theorem meetsCased_append_of_delimits {cs : List Char} (h : Delimits cs) (front : List Char) :
    meetsCased (front ++ cs) = meetsCased front := by
  -- what comes behind `front` counts only if all of `front` is ignored, and then it ends the search
  induction front with
  | nil =>
      cases cs with
      | nil => rfl
      | cons c rest =>
          obtain ⟨hignorable, hcased⟩ := h c rfl
          rw [List.nil_append, meetsCased_cons, hignorable, hcased]
          rfl
  | cons c front ih => rw [List.cons_append, meetsCased_cons, meetsCased_cons, ih]

/-- A text that is set apart from what stands around it keeps its sigmas. -/
theorem keepsSigmas_of_delimits {before cs after : List Char} (hbefore : Delimits before)
    (hafter : Delimits after) : KeepsSigmas before cs after := by
  intro front back _
  rw [lowerSigma, lowerSigma, meetsCased_append_of_delimits hbefore,
    meetsCased_append_of_delimits hafter]

end RunRadar.Text
