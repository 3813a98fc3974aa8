import RunRadar.Proofs.Json.RoundTrip
import RunRadar.Proofs.Text.FormUrl
import RunRadar.Proofs.Tree.Grammar
import RunRadar.Tree.Wire

/-!
# RunRadar.Proofs.Tree.Wire

What becomes of a tree in its **URL form**. Three layers lie between a tree and its URL form: the
JSON value, the text of that value and the form encoding of the text. Each is undone by its own
reader, but not everywhere: the reader of JSON stops where values nest too deeply
(`decode_encode_eq`), and the reader of trees rejects leaves without an identifier
(`ids_ne_of_ofJson_toJson`). Nothing else is lost.
-/

namespace RunRadar.Tree

/-! ### The JSON form -/

theorem toJsonAll_eq_map (ts : List Tree) : toJsonAll ts = ts.map toJson := by
  induction ts with
  | nil => rfl
  | cons t ts ih => rw [toJsonAll, ih, List.map_cons]

/-- The JSON form of a tree has whole numbers when the params of its leaves have. -/
theorem isWhole_toJson {t : Tree} (h : ∀ l ∈ t.leaves, l.params.areWhole = true) :
    t.toJson.isWhole = true := by
  induction t using operand_induction with
  | identity op => rfl
  | leaf l =>
      have hl := h l (List.mem_singleton_self l)
      simp [toJson, leafFields, Json.isWhole, Json.Fields.areWhole, hl]
  | combine op ts ih =>
      have hts : ∀ v ∈ toJsonAll ts, v.isWhole = true := by
        intro v hv
        rw [toJsonAll_eq_map, List.mem_map] at hv
        obtain ⟨t, ht, rfl⟩ := hv
        refine ih t ht fun l hl => h l ?_
        rw [leaves_combine, List.mem_flatMap]
        exact ⟨t, ht, hl⟩
      rw [toJson, Json.isWhole, Json.areWhole, Json.areWhole_iff.mpr hts]
      rfl

/-- The operands of what stands for a tree do so themselves. -/
theorem isTree_operands {head : Json} {items : List Json}
    (h : (Json.array (head :: items)).IsTree) : ∀ item ∈ items, item.IsTree := by
  cases h with
  | combine op hitems => exact hitems

/-- A JSON form that stands for a tree is that of a tree whose leaves have identifiers. -/
theorem ids_ne_of_isTree {t : Tree} (h : t.toJson.IsTree) : ∀ l ∈ t.leaves, l.id ≠ "" := by
  induction t using operand_induction with
  | identity op => exact fun l hl => absurd hl List.not_mem_nil
  | leaf l =>
      intro l' hl'
      obtain rfl := List.mem_singleton.mp hl'
      rw [toJson] at h
      cases h with
      | leaf hid hne hparams =>
          have heq := Json.string.inj (Option.some.inj hid)
          exact heq ▸ hne
  | combine op ts ih =>
      intro l hl
      rw [leaves_combine, List.mem_flatMap] at hl
      obtain ⟨t, ht, hl⟩ := hl
      refine ih t ht (isTree_operands h _ ?_) l hl
      rw [toJsonAll_eq_map]
      exact List.mem_map_of_mem ht

/-- A tree that can be read from the JSON form of another is that one. -/
theorem eq_of_ofJson_toJson {s t : Tree} (h : ofJson t.toJson = .ok s) :
    (∀ l ∈ t.leaves, l.id ≠ "") ∧ s = t := by
  have hids := ids_ne_of_isTree (sound_ofJson _ _ h).1
  rw [ofJson_toJson hids] at h
  exact ⟨hids, (Except.ok.inj h).symm⟩

/-! ### The URL form -/

/-- Reading the URL form of a tree is reading its JSON form, when that does not nest too deeply. -/
theorem decode_encode_eq {t : Tree} (h : t.toJson.isWhole = true) :
    decode (encode t) =
      if t.toJson.depth ≤ Json.maxDepth then ofJson t.toJson else .error .unreadable := by
  have hne : t.text ≠ "" := by
    obtain ⟨c, cs, hcs, -⟩ := Json.exists_write_eq_cons h []
    rw [text, Json.text, hcs]
    simp
  rw [decode, encode, Text.FormUrl.decode_encode hne]
  simp only [text, Json.read?_text h]
  by_cases hdepth : t.toJson.depth ≤ Json.maxDepth
  · simp only [if_pos hdepth]
  · simp only [if_neg hdepth]

/-- A tree comes back from its URL form exactly when its leaves have identifiers and its JSON form
nests at most 127 arrays and objects deep. Any other is refused, and none comes back as a
different tree. -/
theorem decode_encode_iff (t : Tree) (h : ∀ l ∈ t.leaves, l.params.areWhole = true) :
    (decode (encode t) = .ok t ↔ (∀ l ∈ t.leaves, l.id ≠ "") ∧ t.toJson.depth ≤ 127) ∧
      (¬((∀ l ∈ t.leaves, l.id ≠ "") ∧ t.toJson.depth ≤ 127) →
        ∃ e, decode (encode t) = .error e) ∧
      ∀ s, decode (encode t) = .ok s → s = t := by
  have heq : decode (encode t) =
      if t.toJson.depth ≤ 127 then ofJson t.toJson else .error .unreadable :=
    decode_encode_eq (isWhole_toJson h)
  rw [heq]
  -- a tree that nests too deeply is refused before anybody looks at its leaves
  by_cases hdepth : t.toJson.depth ≤ 127
  · simp only [if_pos hdepth]
    refine ⟨⟨fun hs => ⟨(eq_of_ofJson_toJson hs).1, hdepth⟩, fun hids => ofJson_toJson hids.1⟩,
      fun hids => ?_, fun s hs => (eq_of_ofJson_toJson hs).2⟩
    cases hread : ofJson t.toJson with
    | error e => exact ⟨e, rfl⟩
    | ok s => exact absurd ⟨(eq_of_ofJson_toJson hread).1, hdepth⟩ hids
  · simp [hdepth]

/-- Params with an array, null and other scripts than Latin come back. -/
theorem decode_encode_nested :
    let params := Json.Fields.ofList
      [("models", .array [.string "a&b=c", .null, .array [Json.ofInt (-7)]]), ("имя", .bool true)]
    let t := combine .or [combine .and [leaf ⟨"model", params⟩, identity .or], combine .and []]
    (∀ l ∈ t.leaves, l.params.areWhole = true) ∧ (∀ l ∈ t.leaves, l.id ≠ "") ∧
      t.toJson.depth = 6 ∧ decode (encode t) = .ok t := by
  intro params t
  have hwhole : ∀ l ∈ t.leaves, l.params.areWhole = true := by decide
  have hids : ∀ l ∈ t.leaves, l.id ≠ "" := by decide
  have hdepth : t.toJson.depth = 6 := by decide
  exact ⟨hwhole, hids, hdepth, (decode_encode_iff t hwhole).1.mpr ⟨hids, by omega⟩⟩

end RunRadar.Tree
