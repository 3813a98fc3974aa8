import RunRadar.Json.Reader
import RunRadar.Proofs.Json.Value

/-!
# RunRadar.Proofs.Json.Depth

The reader of JSON keeps its **promise of depth**: no text is read as a value that nests more deeply
than there is room for (`depth_le_of_readValue`). Each opening bracket and brace takes one level of
the room away, and all that stands behind it is read with the rest.
-/

namespace RunRadar.Json

/-! ### Depth of members -/

namespace Fields

/-- No member is deeper than the members together. -/
theorem depth_le_of_get? {name : String} {v : Json} : {lower : Option String} →
    {fields : Fields lower} → fields.get? name = some v → v.depth ≤ fields.depth
  | _, .nil, h => by cases h
  | _, .cons key above value rest, h => by
      rw [get?] at h
      split at h
      · cases h
        exact Nat.le_max_left ..
      · exact Nat.le_trans (depth_le_of_get? h) (Nat.le_max_right ..)

/-- A member that is put in adds no more than its own depth. -/
theorem depth_insertAbove_le {name : String} {value : Json} {n : Nat} (hvalue : value.depth ≤ n) :
    {lower : Option String} → {above : ∀ k ∈ lower, k < name} → (fields : Fields lower) →
      fields.depth ≤ n → (fields.insertAbove name value above).depth ≤ n
  | _, _, .nil, _ => Nat.max_le.mpr ⟨hvalue, Nat.zero_le n⟩
  | _, _, .cons key aboveKey old rest, h => by
      obtain ⟨hold, hrest⟩ := Nat.max_le.mp h
      rw [insertAbove]
      split
      · exact Nat.max_le.mpr ⟨hvalue, h⟩
      · split
        · exact Nat.max_le.mpr ⟨hvalue, hrest⟩
        · exact Nat.max_le.mpr ⟨hold, depth_insertAbove_le hvalue rest hrest⟩

end Fields

/-! ### Depth of what is read -/

section Parts

variable {readOne : List Char → Reading Json} {n : Nat}
  (hone : ∀ cs v rest, readOne cs = some (v, rest) → v.depth ≤ n)

include hone

/-- Items are as deep as values are read. -/
theorem depthOfItems_le_of_readItems {steps : Nat} {cs rest : List Char} {items : List Json}
    (h : readItems readOne steps cs = some (items, rest)) : depthOfItems items ≤ n := by
  induction steps generalizing cs items rest with
  | zero => cases h
  | succ steps ih =>
      rw [readItems] at h
      cases hitem : readOne (skipBlanks cs) with
      | none => rw [hitem] at h; cases h
      | some read =>
          obtain ⟨item, behind⟩ := read
          have hdepth : item.depth ≤ n := hone _ _ _ hitem
          rw [hitem] at h
          dsimp only at h
          split at h
          · obtain ⟨⟨items, _⟩, hitems, heq⟩ := Option.map_eq_some_iff.mp h
            cases heq
            exact Nat.max_le.mpr ⟨hdepth, ih hitems⟩
          · cases h
            exact Nat.max_le.mpr ⟨hdepth, Nat.zero_le n⟩
          · cases h

/-- Members are as deep as values are read, if those read before them are. -/
theorem depth_le_of_readMembers {steps : Nat} {read fields : Object} {cs rest : List Char}
    (hread : read.depth ≤ n) (h : readMembers readOne steps read cs = some (fields, rest)) :
    fields.depth ≤ n := by
  induction steps generalizing cs read with
  | zero => cases h
  | succ steps ih =>
      rw [readMembers] at h
      split at h
      · split at h
        · cases h
        · split at h
          · split at h
            · cases h
            · next value _ hvalue =>
                have hinsert (key : String) : (read.insert key value).depth ≤ n :=
                  Fields.depth_insertAbove_le (hone _ _ _ hvalue) read hread
                dsimp only at h
                split at h
                · exact ih (hinsert _) h
                · cases h
                  exact hinsert _
                · cases h
          · cases h
      · cases h

end Parts

/-- A value that is read nests no more deeply than there is room for. -/
theorem depth_le_of_readValue {room : Nat} {cs rest : List Char} {v : Json}
    (h : readValue room cs = some (v, rest)) : v.depth ≤ room := by
  induction room using Nat.strongRecOn generalizing cs rest v with
  | ind room ih =>
      unfold readValue at h
      split at h
      -- words
      · cases h; exact Nat.zero_le _
      · cases h; exact Nat.zero_le _
      · cases h; exact Nat.zero_le _
      · -- a string
        obtain ⟨_, -, heq⟩ := Option.map_eq_some_iff.mp h
        cases heq
        exact Nat.zero_le _
      · cases h
      · -- an array
        next room _ =>
          have hitem : ∀ cs v rest, readValue room cs = some (v, rest) → v.depth ≤ room :=
            fun _ _ _ => ih room (Nat.lt_succ_self room)
          split at h
          · cases h
            exact Nat.succ_le_succ (Nat.zero_le room)
          · obtain ⟨⟨items, _⟩, hitems, heq⟩ := Option.map_eq_some_iff.mp h
            cases heq
            exact Nat.succ_le_succ (depthOfItems_le_of_readItems hitem hitems)
      · cases h
      · -- an object
        next room _ =>
          have hvalue : ∀ cs v rest, readValue room cs = some (v, rest) → v.depth ≤ room :=
            fun _ _ _ => ih room (Nat.lt_succ_self room)
          split at h
          · cases h
            exact Nat.succ_le_succ (Nat.zero_le room)
          · obtain ⟨⟨fields, _⟩, hfields, heq⟩ := Option.map_eq_some_iff.mp h
            cases heq
            have hempty : (Fields.nil : Object).depth ≤ room := Nat.zero_le room
            exact Nat.succ_le_succ (depth_le_of_readMembers hvalue hempty hfields)
      · -- a number
        obtain ⟨_, -, heq⟩ := Option.map_eq_some_iff.mp h
        cases heq
        exact Nat.zero_le _

/-- The value of a text nests at most `maxDepth` arrays and objects deep. -/
theorem depth_le_of_read? {text : String} {v : Json} (h : read? text = some v) :
    v.depth ≤ maxDepth := by
  rw [read?] at h
  split at h
  · next hvalue =>
      split at h
      · cases h
        exact depth_le_of_readValue hvalue
      · cases h
  · cases h

end RunRadar.Json
