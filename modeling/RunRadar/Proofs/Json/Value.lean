import RunRadar.Json.Basic

/-!
# RunRadar.Proofs.Json.Value

JSON values **as data**: induction over what a value is made of, how deep it nests, and whether
its numbers are whole. An object is known by its list of members (`Fields.toList_inj`), and putting
these into an empty object in their order gives the object again (`Fields.ofList_toList`), because
each one belongs behind those that are there already.
-/

namespace RunRadar.Json

/-! ### Induction -/

mutual
/-- What holds of a value whenever it holds of its items or of the values of its members holds of
every value. -/
@[elab_as_elim] theorem value_induction {motive : Json → Prop}
    (null : motive .null) (bool : ∀ b, motive (.bool b)) (number : ∀ n, motive (.number n))
    (string : ∀ text, motive (.string text))
    (array : ∀ items : List Json, (∀ v ∈ items, motive v) → motive (.array items))
    (object : ∀ fields : Object, (∀ m ∈ fields.toList, motive m.2) → motive (.object fields)) :
    ∀ v : Json, motive v
  | .null => null
  | .bool b => bool b
  | .number n => number n
  | .string text => string text
  | .array items => array items (items_induction null bool number string array object items)
  | .object fields =>
      object fields (fields_induction null bool number string array object fields)
theorem items_induction {motive : Json → Prop}
    (null : motive .null) (bool : ∀ b, motive (.bool b)) (number : ∀ n, motive (.number n))
    (string : ∀ text, motive (.string text))
    (array : ∀ items : List Json, (∀ v ∈ items, motive v) → motive (.array items))
    (object : ∀ fields : Object, (∀ m ∈ fields.toList, motive m.2) → motive (.object fields)) :
    ∀ items : List Json, ∀ v ∈ items, motive v
  | [], _, hv => absurd hv List.not_mem_nil
  | item :: items, v, hv => by
      rcases List.mem_cons.mp hv with h | h
      · exact h ▸ value_induction null bool number string array object item
      · exact items_induction null bool number string array object items v h
theorem fields_induction {motive : Json → Prop}
    (null : motive .null) (bool : ∀ b, motive (.bool b)) (number : ∀ n, motive (.number n))
    (string : ∀ text, motive (.string text))
    (array : ∀ items : List Json, (∀ v ∈ items, motive v) → motive (.array items))
    (object : ∀ fields : Object, (∀ m ∈ fields.toList, motive m.2) → motive (.object fields)) :
    ∀ {lower : Option String} (fields : Fields lower), ∀ m ∈ fields.toList, motive m.2
  | _, .nil, _, hm => absurd hm List.not_mem_nil
  | _, .cons key above value rest, m, hm => by
      rcases List.mem_cons.mp hm with h | h
      · exact h ▸ value_induction null bool number string array object value
      · exact fields_induction null bool number string array object rest m h
end

/-! ### Depth -/

mutual
/-- How many arrays and objects are nested in a value, counting itself. -/
def depth : Json → Nat
  | .array items => depthOfItems items + 1
  | .object fields => fields.depth + 1
  | _ => 0
/-- The greatest depth of an item. -/
def depthOfItems : List Json → Nat
  | [] => 0
  | item :: items => max item.depth (depthOfItems items)
/-- The greatest depth of a member. -/
def Fields.depth : {lower : Option String} → Fields lower → Nat
  | _, .nil => 0
  | _, .cons _ _ value rest => max value.depth rest.depth
end

/-! ### Whole numbers -/

mutual
/-- Whether all numbers in a value are whole numbers of sixty-four bits. -/
def isWhole : Json → Bool
  | .number (.integer _ _) => true
  | .number (.double _ _) => false
  | .array items => areWhole items
  | .object fields => fields.areWhole
  | _ => true
/-- Whether all numbers in items are. -/
def areWhole : List Json → Bool
  | [] => true
  | item :: items => item.isWhole && areWhole items
/-- Whether all numbers in the values of members are. -/
def Fields.areWhole : {lower : Option String} → Fields lower → Bool
  | _, .nil => true
  | _, .cons _ _ value rest => value.isWhole && rest.areWhole
end

theorem areWhole_iff {items : List Json} :
    areWhole items = true ↔ ∀ v ∈ items, v.isWhole = true := by
  induction items with
  | nil => simp [areWhole]
  | cons item items ih => simp [areWhole, ih]

theorem Fields.areWhole_iff : {lower : Option String} → (fields : Fields lower) →
    (fields.areWhole = true ↔ ∀ m ∈ fields.toList, m.2.isWhole = true)
  | _, .nil => by simp [Fields.areWhole]
  | _, .cons key above value rest => by simp [Fields.areWhole, Fields.areWhole_iff rest]

/-! ### Objects as lists of members -/

namespace Fields

/-- Objects with the same members are the same. -/
theorem toList_inj : {lower : Option String} → {a b : Fields lower} →
    (a.toList = b.toList ↔ a = b)
  | _, .nil, .nil => by simp
  | _, .nil, .cons .. => by simp
  | _, .cons .., .nil => by simp
  | _, .cons key above value rest, .cons key' above' value' rest' => by
      constructor
      · intro h
        simp only [toList_cons, List.cons.injEq, Prod.mk.injEq] at h
        obtain ⟨⟨rfl, rfl⟩, hrest⟩ := h
        rw [toList_inj.mp hrest]
      · intro h
        rw [h]

/-- Members lie above the bound, and their keys increase. -/
theorem keys_increase : {lower : Option String} → (fields : Fields lower) →
    (∀ k ∈ lower, ∀ m ∈ fields.toList, k < m.1) ∧
      fields.toList.Pairwise fun m m' => m.1 < m'.1
  | _, .nil => by simp
  | _, .cons key above value rest => by
      obtain ⟨habove, hrest⟩ := keys_increase rest
      have hkey : ∀ m ∈ rest.toList, key < m.1 := habove key rfl
      refine ⟨fun k hk m hm => ?_, List.pairwise_cons.mpr ⟨hkey, hrest⟩⟩
      rcases List.mem_cons.mp hm with rfl | hm
      · exact above k hk
      · exact String.lt_trans (above k hk) (hkey m hm)

/-- A member whose key lies above all others is put at the end. -/
theorem toList_insertAbove {name : String} {value : Json} : {lower : Option String} →
    {above : ∀ k ∈ lower, k < name} → (fields : Fields lower) →
    (∀ m ∈ fields.toList, m.1 < name) →
    (fields.insertAbove name value above).toList = fields.toList ++ [(name, value)]
  | _, _, .nil, _ => rfl
  | _, _, .cons key aboveKey old rest, h => by
      obtain ⟨hkey, hrest⟩ := List.forall_mem_cons.mp h
      have hnot : ¬name < key := String.lt_asymm hkey
      have hne : name ≠ key := fun heq => String.lt_irrefl key (heq ▸ hkey)
      rw [insertAbove, dif_neg hnot, dif_neg hne, toList_cons, toList_insertAbove rest hrest]
      rfl

/-- What stands under a key after a member has been put in: the member under its own key, and all
else as before. -/
theorem get?_insertAbove {name : String} {value : Json} (k : String) : {lower : Option String} →
    {above : ∀ k ∈ lower, k < name} → (fields : Fields lower) →
    (fields.insertAbove name value above).get? k = if name = k then some value else fields.get? k
  | _, _, .nil => rfl
  | _, _, .cons key aboveKey old rest => by
      rw [insertAbove]
      split
      · rfl
      · next hlt =>
          split
          · next heq =>
              subst heq
              rw [get?, get?]
              split <;> rfl
          · next hne =>
              rw [get?, get?, get?_insertAbove k rest]
              by_cases hkey : key = k
              · rw [if_pos hkey, if_pos hkey, if_neg fun h => hne (h.trans hkey.symm)]
              · rw [if_neg hkey, if_neg hkey]

theorem get?_insert (fields : Object) (name : String) (value : Json) (k : String) :
    (fields.insert name value).get? k = if name = k then some value else fields.get? k :=
  get?_insertAbove k fields

theorem present?_insert_of_ne {name k : String} (h : name ≠ k) (fields : Object) (value : Json) :
    (fields.insert name value).present? k = fields.present? k := by
  rw [present?, present?, get?_insert, if_neg h]

theorem present?_insert_string (fields : Object) (name text : String) :
    (fields.insert name (.string text)).present? name = some (.string text) := by
  rw [present?, get?_insert, if_pos rfl]

/-- Putting members with increasing keys into an object whose keys lie below appends them. -/
theorem toList_foldl_insert {members : List (String × Json)} (fields : Object)
    (h : (fields.toList ++ members).Pairwise fun m m' => m.1 < m'.1) :
    (members.foldl (fun fields m => fields.insert m.1 m.2) fields).toList =
      fields.toList ++ members := by
  induction members generalizing fields with
  | nil => simp
  | cons m members ih =>
      have hbelow : ∀ m' ∈ fields.toList, m'.1 < m.1 := by
        intro m' hm'
        exact (List.pairwise_append.mp h).2.2 m' hm' m List.mem_cons_self
      have hinsert : (fields.insert m.1 m.2).toList = fields.toList ++ [m] :=
        toList_insertAbove fields hbelow
      rw [List.foldl_cons, ih, hinsert, List.append_assoc, List.singleton_append]
      rwa [hinsert, List.append_assoc, List.singleton_append]

/-- Putting the members of an object into an empty one gives the object again. -/
theorem ofList_toList (fields : Object) : ofList fields.toList = fields := by
  rw [← toList_inj]
  exact toList_foldl_insert .nil fields.keys_increase.2

end Fields

end RunRadar.Json
