import RunRadar.Proofs.Json.Depth
import RunRadar.Proofs.Tree.Wire

/-!
# RunRadar.Proofs.Tree.Link

What becomes of a **link that is read and written again**. The tree of a link is written without
the members that nobody asked for and with params for every leaf, so its form may be shorter than
the link or longer, and there is one case in which it nests more deeply: a leaf without params is
written with an empty object, one level below the leaf (`Json.depth_trimmed_le_iff`). Where the
leaf stands as deep as the reader of JSON goes, that level is one too many, and the link that is
written can no longer be read (`decode_encode_of_decode`, `nested_link_breaks`).
-/

namespace RunRadar

namespace Json

/-! ### Leaves without params -/

/-- Whether a leaf without params stands so many arrays and objects deep, itself counted. -/
def hasBareLeafAt : Nat → Json → Bool
  | 0, _ => false
  | n + 1, .array items => items.any (hasBareLeafAt n)
  | n + 1, .object fields => n = 0 && (fields.present? "params").isNone
  | _ + 1, _ => false

/-! ### Depth of what is written -/

theorem depthOfItems_le_iff {items : List Json} {n : Nat} :
    depthOfItems items ≤ n ↔ ∀ v ∈ items, v.depth ≤ n := by
  induction items with
  | nil => simp [depthOfItems]
  | cons item items ih => rw [depthOfItems, Nat.max_le, ih, List.forall_mem_cons]

theorem trimmedItems_eq_map (items : List Json) : trimmedItems items = items.map trimmed := by
  induction items with
  | nil => rfl
  | cons item items ih => rw [trimmedItems, ih, List.map_cons]

/-- The params that are written for a leaf are those that it has, or none. -/
theorem depth_params_le_iff {fields : Object} {n : Nat} (h : fields.depth ≤ n) :
    ((fields.present? "params").getD (.object .nil)).depth ≤ n ↔
      ¬(n = 0 ∧ (fields.present? "params").isNone = true) := by
  cases hparams : fields.present? "params" with
  | none =>
      have hempty : (Json.object .nil).depth = 1 := rfl
      simp only [Option.getD_none, hempty, Option.isNone_none, and_true]
      omega
  | some params =>
      have hget : fields.get? "params" = some params := by
        unfold Fields.present? at hparams
        split at hparams
        · cases hparams
        · exact hparams
      simpa using Nat.le_trans (Fields.depth_le_of_get? hget) h

/-- Where a value is no deeper than `n`, it is so after its leaves have been cut down, unless there
is a leaf without params at that very depth. -/
theorem depth_trimmed_le_iff {v : Json} {n : Nat} (h : v.depth ≤ n) :
    v.trimmed.depth ≤ n ↔ v.hasBareLeafAt n = false := by
  induction v using value_induction generalizing n with
  | null => cases n <;> simp [trimmed, depth, hasBareLeafAt]
  | bool b => cases n <;> simp [trimmed, depth, hasBareLeafAt]
  | number x => cases n <;> simp [trimmed, depth, hasBareLeafAt]
  | string text => cases n <;> simp [trimmed, depth, hasBareLeafAt]
  | array items ih =>
      obtain ⟨n, rfl⟩ := Nat.exists_eq_succ_of_ne_zero (Nat.ne_zero_of_lt h)
      have hitems : ∀ v ∈ items, v.depth ≤ n :=
        depthOfItems_le_iff.mp (Nat.le_of_succ_le_succ h)
      rw [trimmed, depth, Nat.succ_le_succ_iff, trimmedItems_eq_map, depthOfItems_le_iff,
        List.forall_mem_map, hasBareLeafAt, List.any_eq_false]
      refine forall₂_congr fun v hv => ?_
      rw [ih v hv (hitems v hv), Bool.not_eq_true]
  | object fields _ =>
      obtain ⟨n, rfl⟩ := Nat.exists_eq_succ_of_ne_zero (Nat.ne_zero_of_lt h)
      have hfields : fields.depth ≤ n := Nat.le_of_succ_le_succ h
      have hid : ((fields.get? "id").getD .null).depth ≤ n := by
        cases hget : fields.get? "id" with
        | none => exact Nat.zero_le n
        | some id => exact Nat.le_trans (Fields.depth_le_of_get? hget) hfields
      have hwritten : (Json.object fields).trimmed.depth ≤ n + 1 ↔
          ((fields.present? "params").getD (.object .nil)).depth ≤ n := by
        simp only [trimmed, callFields, depth, Fields.depth, Nat.succ_le_succ_iff, Nat.max_le, hid,
          Nat.zero_le, and_true, true_and]
      rw [hwritten, depth_params_le_iff hfields, hasBareLeafAt, Bool.and_eq_false_iff,
        decide_eq_false_iff_not, ← Bool.not_eq_true, not_and_or]

/-- A value that stands for a tree does so after its leaves have been cut down. -/
theorem IsTree.trimmed {v : Json} (h : v.IsTree) : v.trimmed.IsTree := by
  induction h with
  | identity op => exact .identity op
  | @combine op items _ ih =>
      refine .combine op fun v hv => ?_
      rw [trimmedItems_eq_map, List.mem_map] at hv
      obtain ⟨item, hitem, rfl⟩ := hv
      exact ih item hitem
  | @leaf fields id hid hne hparams =>
      have hcalled : (callFields fields).get? "id" = some (.string id) := by
        simp [callFields, Fields.get?, hid]
      refine .leaf hcalled hne (.inr (.inr ?_))
      rcases hparams with h | h | ⟨params, h⟩ <;>
        simp [callFields, Fields.get?, Fields.present?, h]

/-! ### Nesting -/

/-- A value inside so many arrays that begin with the word AND. -/
def nested (v : Json) : Nat → Json
  | 0 => v
  | n + 1 => .array [.string "AND", v.nested n]

theorem depth_nested (v : Json) (n : Nat) : (v.nested n).depth = v.depth + n := by
  induction n with
  | zero => rfl
  | succ n ih => simp [nested, depth, depthOfItems, ih, Nat.add_assoc]

theorem isWhole_nested {v : Json} (h : v.isWhole = true) (n : Nat) :
    (v.nested n).isWhole = true := by
  induction n with
  | zero => exact h
  | succ n ih => simp [nested, isWhole, areWhole, ih]

end Json

namespace Tree

/-! ### Links -/

/-- The leaves of a tree that was read have identifiers. -/
theorem ids_ne_of_ofJson {v : Json} {t : Tree} (h : ofJson v = .ok t) :
    ∀ l ∈ t.leaves, l.id ≠ "" := by
  obtain ⟨htree, hwritten⟩ := sound_ofJson v t h
  exact ids_ne_of_isTree (hwritten ▸ htree.trimmed)

/-- The JSON value that a URL form holds. -/
def linked? (encoded : String) : Option Json :=
  match Text.FormUrl.decode encoded with
  | [(name, "")] => Json.read? name
  | _ => none

/-- The value that a URL form holds decides what is decoded from it. -/
theorem decode_of_linked {s : String} {v : Json} (h : linked? s = some v) :
    decode s = ofJson v := by
  unfold linked? at h
  split at h
  · next name hname =>
      rw [decode, hname]
      simp only [h]
  · cases h

/-- The form encoding of the text of a value holds that value, if it does not nest too deeply. -/
theorem linked?_encode_text {v : Json} (hwhole : v.isWhole = true) (hdepth : v.depth ≤ 127) :
    linked? (Text.FormUrl.encode v.text) = some v := by
  have hne : v.text ≠ "" := by
    obtain ⟨c, cs, hcs, -⟩ := Json.exists_write_eq_cons hwhole []
    rw [Json.text, hcs]
    simp
  rw [linked?, Text.FormUrl.decode_encode hne]
  exact (Json.read?_text hwhole).trans (if_pos hdepth)

/-- A tree is decoded from the value that the URL form holds, which nests no more deeply than the
reader of JSON goes. -/
theorem exists_linked_of_decode {s : String} {t : Tree} (h : decode s = .ok t) :
    ∃ v, linked? s = some v ∧ ofJson v = .ok t ∧ v.depth ≤ Json.maxDepth := by
  unfold decode at h
  split at h
  · next name hname =>
      rw [linked?, hname]
      cases hread : Json.read? name with
      | none => rw [hread] at h; cases h
      | some v =>
          rw [hread] at h
          exact ⟨v, hread, h, Json.depth_le_of_read? hread⟩
  · cases h

/-- A tree that has been decoded is decoded again from its own URL form, unless the form that was
read has a leaf without params at the greatest depth that the reader goes to. Such a tree has a URL
form that nobody can read. -/
theorem decode_encode_of_decode {s : String} {t : Tree} (hs : decode s = .ok t)
    (h : ∀ l ∈ t.leaves, l.params.areWhole = true) :
    ∃ v, linked? s = some v ∧ ofJson v = .ok t ∧ v.depth ≤ 127 ∧
      decode (encode t) = if v.hasBareLeafAt 127 then .error .unreadable else .ok t := by
  obtain ⟨v, hlinked, hread, hdepth⟩ := exists_linked_of_decode hs
  refine ⟨v, hlinked, hread, hdepth, ?_⟩
  have hagain : ofJson t.toJson = .ok t := ofJson_toJson (ids_ne_of_ofJson hread)
  have hwritten : t.toJson.depth ≤ Json.maxDepth ↔ v.hasBareLeafAt Json.maxDepth = false := by
    rw [(sound_ofJson v t hread).2]
    exact Json.depth_trimmed_le_iff hdepth
  rw [decode_encode_eq (isWhole_toJson h), hagain]
  cases hbare : v.hasBareLeafAt 127 with
  | true => exact if_neg fun hle => absurd (hwritten.mp hle) (by simp [Json.maxDepth, hbare])
  | false => exact if_pos (hwritten.mpr hbare)

/-- A link with a member too many and params that are null is written again as a longer one, which
is decoded into the same tree. -/
theorem decode_encode_of_decode_model :
    let v := Json.array [.string "OR",
      .ofMembers [("id", .string "model"), ("note", .bool true), ("params", .null)]]
    let s := Text.FormUrl.encode v.text
    let t := combine .or [leafOf "model" .null]
    decode s = .ok t ∧ (∀ l ∈ t.leaves, l.params.areWhole = true) ∧
      v.hasBareLeafAt 2 = true ∧ v.hasBareLeafAt 127 = false ∧ decode (encode t) = .ok t := by
  intro v s t
  have hlinked : linked? s = some v := linked?_encode_text (by decide) (by decide)
  have hs : decode s = .ok t := (decode_of_linked hlinked).trans rfl
  have hwhole : ∀ l ∈ t.leaves, l.params.areWhole = true := by decide
  have hbare : v.hasBareLeafAt 127 = false := by decide
  obtain ⟨v', hv', -, -, hagain⟩ := decode_encode_of_decode hs hwhole
  obtain rfl : v = v' := Option.some.inj (hlinked.symm.trans hv')
  rw [hbare] at hagain
  exact ⟨hs, hwhole, by decide, hbare, hagain⟩

/-! ### Deep links -/

/-- A tree inside so many ANDs of one operand. -/
def nested (t : Tree) : Nat → Tree
  | 0 => t
  | n + 1 => combine .and [t.nested n]

theorem toJson_nested (t : Tree) (n : Nat) : (t.nested n).toJson = t.toJson.nested n := by
  induction n with
  | zero => rfl
  | succ n ih => rw [nested, toJson, toJsonAll, toJsonAll, ih]; rfl

theorem leaves_nested (t : Tree) (n : Nat) : (t.nested n).leaves = t.leaves := by
  induction n with
  | zero => rfl
  | succ n ih => rw [nested, leaves_combine, List.flatMap_singleton, ih]

theorem ofJson_nested {v : Json} {t : Tree} (h : ofJson v = .ok t) (n : Nat) :
    ofJson (v.nested n) = .ok (t.nested n) := by
  induction n with
  | zero => exact h
  | succ n ih =>
      simp only [Json.nested, ofJson, headOperator, Connective.ofWord?, if_true, ofJsonAll, ih]
      rfl

/-- The leaf of a filter, written without params. -/
def bareLeaf : Json := .ofMembers [("id", .string "status")]

/-- A link that nests as deeply as the reader goes is decoded, and what is written for its tree is
refused. -/
theorem nested_link_breaks :
    let link := Text.FormUrl.encode (bareLeaf.nested 126).text
    let t := (leafOf "status" .null).nested 126
    decode link = .ok t ∧ (∀ l ∈ t.leaves, l.params.areWhole = true) ∧
      decode (encode t) = .error .unreadable := by
  intro link t
  have hleaf : ofJson bareLeaf = .ok (leafOf "status" .null) := rfl
  have hwhole : ∀ l ∈ t.leaves, l.params.areWhole = true := by
    rw [leaves_nested]
    decide
  have hbare : bareLeaf.isWhole = true := by decide
  have hdepth : (bareLeaf.nested 126).depth = 127 := Json.depth_nested bareLeaf 126
  have hlinked := linked?_encode_text (Json.isWhole_nested hbare 126) (Nat.le_of_eq hdepth)
  have hdeep : ¬t.toJson.depth ≤ Json.maxDepth := by
    have hgrown : t.toJson.depth = 128 := by
      rw [toJson_nested, Json.depth_nested]
      rfl
    rw [hgrown]
    decide
  refine ⟨?_, hwhole, ?_⟩
  · rw [decode_of_linked hlinked, ofJson_nested hleaf]
  · rw [decode_encode_eq (isWhole_toJson hwhole), if_neg hdeep]

end Tree

end RunRadar

