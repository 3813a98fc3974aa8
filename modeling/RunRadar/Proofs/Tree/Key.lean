import RunRadar.Proofs.Tree.Wire

/-!
# RunRadar.Proofs.Tree.Key

The URL form as a **key** for trees: it can stand in a URL as it is, and different trees have
different keys. This says more than that the form can be read, for the reader refuses leaves
without identifiers and trees that nest too deeply, and their keys are their own as well
(`encode_is_faithful`). The reader of JSON still tells the texts of two values apart when it is
given room enough for both of them.
-/

namespace RunRadar

namespace Text.FormUrl

/-- The characters that a URL holds without an escape, with the two that stand for others. -/
def isUrlSafe (c : Char) : Bool := c.isAlphanum || ['*', '-', '.', '_', '+', '%'].contains c

/-- What is written for a byte is safe in a URL. -/
theorem isUrlSafe_of_mem_encodeByte {b : UInt8} {c : Char} (h : c ∈ encodeByte b) :
    isUrlSafe c = true := by
  have hplain : ∀ n < 128, isPlain (UInt8.ofNat n) = true → isUrlSafe (Char.ofNat n) = true := by
    decide
  have hdigit : ∀ n < 16, isUrlSafe (upperHexDigit n) = true := by decide
  have hb := b.toNat_lt
  unfold encodeByte at h
  split at h
  · next hb' =>
      obtain rfl := List.mem_singleton.mp h
      exact hplain b.toNat (lt_of_isPlain hb') (by rwa [UInt8.ofNat_toNat])
  · split at h
    · obtain rfl := List.mem_singleton.mp h
      decide
    · simp only [List.mem_cons, List.not_mem_nil, or_false] at h
      rcases h with rfl | rfl | rfl
      · decide
      · exact hdigit _ (by omega)
      · exact hdigit _ (by omega)

/-- A written text is safe in a URL. -/
theorem isUrlSafe_of_mem_encode {text : String} {c : Char} (h : c ∈ (encode text).toList) :
    isUrlSafe c = true := by
  rw [encode, String.toList_ofList] at h
  obtain ⟨b, -, hc⟩ := List.mem_flatMap.mp h
  exact isUrlSafe_of_mem_encodeByte hc

/-- Different texts are written differently. -/
theorem encode_injective : Function.Injective encode := by
  intro a b h
  rw [← decodePiece_encode a, h, decodePiece_encode]

end Text.FormUrl

namespace Json

/-- Different values have different texts, as long as their numbers are whole. -/
theorem eq_of_text_eq {v w : Json} (hv : v.isWhole = true) (hw : w.isWhole = true)
    (h : v.text = w.text) : v = w := by
  have hwritten : v.write [] = w.write [] := by
    have hchars := congrArg String.toList h
    rwa [text, text, String.toList_ofList, String.toList_ofList] at hchars
  -- no depth is too great for a reader that has room for both
  have hreadv := readsBack_of_isWhole hv (max v.depth w.depth) [] endsNumber_nil
  have hreadw := readsBack_of_isWhole hw (max v.depth w.depth) [] endsNumber_nil
  rw [if_pos (Nat.le_max_left ..)] at hreadv
  rw [if_pos (Nat.le_max_right ..), ← hwritten, hreadv] at hreadw
  exact congrArg Prod.fst (Option.some.inj hreadw)

end Json

/-- Connectives have different words. -/
theorem Connective.eq_of_word_eq {a b : Connective} (h : a.word = b.word) : a = b := by
  have hread := congrArg Connective.ofWord? h
  rw [Connective.ofWord?_word, Connective.ofWord?_word] at hread
  exact Option.some.inj hread

namespace Tree

/-! ### Trees and their JSON forms -/

/-- Operands have different JSON forms when each of them has one of its own. -/
theorem eq_of_toJsonAll_eq {ts us : List Tree}
    (ih : ∀ t ∈ ts, ∀ u : Tree, t.toJson = u.toJson → t = u) (h : toJsonAll ts = toJsonAll us) :
    ts = us := by
  induction ts generalizing us with
  | nil =>
      cases us with
      | nil => rfl
      | cons u us => cases h
  | cons t ts ihts =>
      cases us with
      | nil => cases h
      | cons u us =>
          obtain ⟨ht, hts⟩ := List.forall_mem_cons.mp ih
          obtain ⟨hhead, htail⟩ := List.cons.inj h
          rw [ht u hhead, ihts hts htail]

/-- Different trees have different JSON forms. -/
theorem toJson_injective : Function.Injective toJson := by
  intro t u h
  induction t using operand_induction generalizing u with
  | identity op =>
      cases u with
      | identity op' => rw [Connective.eq_of_word_eq (Json.string.inj h)]
      | leaf l => cases h
      | combine op' us => cases h
  | leaf l =>
      cases u with
      | identity op => cases h
      | leaf l' =>
          have hfields : leafFields l = leafFields l' := Json.object.inj h
          have hid : some (Json.string l.id) = some (.string l'.id) :=
            congrArg (Json.Fields.get? "id") hfields
          have hparams : some (Json.object l.params) = some (.object l'.params) :=
            congrArg (Json.Fields.get? "params") hfields
          cases l
          cases l'
          cases hid
          cases hparams
          rfl
      | combine op us => cases h
  | combine op ts ih =>
      cases u with
      | identity op' => cases h
      | leaf l => cases h
      | combine op' us =>
          obtain ⟨hword, hoperands⟩ := List.cons.inj (Json.array.inj h)
          rw [Connective.eq_of_word_eq (Json.string.inj hword),
            eq_of_toJsonAll_eq (fun t ht u hu => ih t ht hu) hoperands]

/-! ### Keys -/

/-- The URL form of a tree can stand in a URL as it is, and no other tree has the same one, however
deep the trees are and whatever the identifiers of their leaves. -/
theorem encode_is_faithful :
    (∀ t : Tree, ∀ c ∈ (encode t).toList, Text.FormUrl.isUrlSafe c = true) ∧
      ∀ t u : Tree, (∀ l ∈ t.leaves, l.params.areWhole = true) →
        (∀ l ∈ u.leaves, l.params.areWhole = true) → (encode t = encode u ↔ t = u) := by
  refine ⟨fun t c hc => Text.FormUrl.isUrlSafe_of_mem_encode hc, fun t u ht hu => ⟨?_, ?_⟩⟩
  · intro h
    have htext : t.toJson.text = u.toJson.text := Text.FormUrl.encode_injective h
    exact toJson_injective (Json.eq_of_text_eq (isWhole_toJson ht) (isWhole_toJson hu) htext)
  · rintro rfl
    rfl

/-- A word in params, a list of that word and a text that looks like the list have different keys,
also in leaves that the reader refuses. -/
theorem encode_is_faithful_unnamed :
    let tree := fun v => combine .and [leaf ⟨"", .ofList [("key", v)]⟩]
    let word := tree (.string "AND")
    let list := tree (.array [.string "AND"])
    let quoted := tree (.string "[\"AND\"]")
    ((∀ l ∈ word.leaves, l.params.areWhole = true) ∧ (∀ l ∈ list.leaves, l.params.areWhole = true) ∧
        ∀ l ∈ quoted.leaves, l.params.areWhole = true) ∧
      encode word ≠ encode list ∧ encode list ≠ encode quoted ∧
      ∀ c ∈ (encode quoted).toList, Text.FormUrl.isUrlSafe c = true := by
  intro tree word list quoted
  have hword : ∀ l ∈ word.leaves, l.params.areWhole = true := by decide
  have hlist : ∀ l ∈ list.leaves, l.params.areWhole = true := by decide
  have hquoted : ∀ l ∈ quoted.leaves, l.params.areWhole = true := by decide
  refine ⟨⟨hword, hlist, hquoted⟩, fun h => ?_, fun h => ?_, encode_is_faithful.1 quoted⟩
  · exact absurd ((encode_is_faithful.2 word list hword hlist).mp h) (by decide)
  · exact absurd ((encode_is_faithful.2 list quoted hlist hquoted).mp h) (by decide)

end Tree

end RunRadar
