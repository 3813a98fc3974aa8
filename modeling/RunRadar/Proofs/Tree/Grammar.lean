import Mathlib.Data.List.Forall2
import RunRadar.Json.Record
import RunRadar.Proofs.Tree.Value
import RunRadar.Tree.Json

/-!
# RunRadar.Proofs.Tree.Grammar

The **grammar of written trees**, and the reader and the writer of trees against it. `Json.IsTree`
says which values stand for trees, without saying how they are read. The reader accepts exactly
these, and what it reads is written as the same value again, apart from members of leaves that
nobody asks for.

What is wrong with a value is said node by node (`Json.fault?`), and the nodes have an order
(`Json.nodes`): a node stands before its operands, and these stand from left to right. The reader
reports the fault of the first node that has one.
-/

namespace RunRadar

namespace Json

/-! ### The grammar -/

/-- A value stands for a tree: it is the word of a connective, or an array of such a word and
trees, or an object with an identifier and perhaps params. -/
inductive IsTree : Json → Prop
  | identity (op : Connective) : IsTree (.string op.word)
  | combine (op : Connective) {items : List Json} (hitems : ∀ item ∈ items, IsTree item) :
      IsTree (.array (.string op.word :: items))
  | leaf {fields : Object} {id : String} (hid : fields.get? "id" = some (.string id))
      (hne : id ≠ "")
      (hparams : fields.get? "params" = none ∨ fields.get? "params" = some .null ∨
        ∃ params, fields.get? "params" = some (.object params)) :
      IsTree (.object fields)

/-- Any key can be the first. -/
theorem first_key (key : String) : ∀ k ∈ (none : Option String), k < key :=
  fun _ h => absurd h (Option.not_mem_none _)

theorem id_lt_params : ∀ k ∈ some "id", k < "params" := by decide

/-- The members by which an object calls a filter, and no others. Params that are absent or null
are written as none. -/
def callFields (fields : Object) : Object :=
  .cons "id" (first_key "id") ((fields.get? "id").getD .null)
    (.cons "params" id_lt_params ((fields.present? "params").getD (.object .nil)) .nil)

mutual
/-- A value with all of its leaves cut down to what calls a filter. -/
def trimmed : Json → Json
  | .array items => .array (trimmedItems items)
  | .object fields => .object (callFields fields)
  | .null => .null
  | .bool b => .bool b
  | .number n => .number n
  | .string text => .string text
/-- Items with all of their leaves cut down. -/
def trimmedItems : List Json → List Json
  | [] => []
  | item :: items => item.trimmed :: trimmedItems items
end

/-! ### Malformed nodes -/

/-- What is wrong with the identifier of a leaf. -/
def idFault? (fields : Object) : Option LeafFault :=
  match fields.get? "id" with
  | none => some .missingId
  | some (.string id) => if id = "" then some (.badId (.string id)) else none
  | some found => some (.badId found)

/-- What is wrong with the params of a leaf. -/
def paramsFault? (fields : Object) : Option LeafFault :=
  match fields.present? "params" with
  | none => none
  | some (.object _) => none
  | some found => some (.badParams (((fields.get? "id").bind asText?).getD "") found)

/-- What is wrong with a word where a connective has to be. -/
def wordFault? (word : String) : Option TreeError :=
  if word = "AND" ∨ word = "OR" then none else some (.unknownOperator word)

/-- What is wrong with a node, whatever its operands are. A leaf is judged by its identifier
before its params. -/
def fault? : Json → Option TreeError
  | .string word => wordFault? word
  | .array [] => some .emptyCombinator
  | .array (.string word :: _) => wordFault? word
  | .array (found :: _) => some (.missingOperator found)
  | .object fields => ((idFault? fields).or (paramsFault? fields)).map .invalidLeaf
  | found => some (.unexpectedValue found)

mutual
/-- The nodes of a value: first itself, then those of its operands, from left to right. -/
def nodes : Json → List Json
  | .array (head :: items) => .array (head :: items) :: nodesOf items
  | v => [v]
/-- The nodes of operands. -/
def nodesOf : List Json → List Json
  | [] => []
  | item :: items => item.nodes ++ nodesOf items
end

end Json

namespace Tree

/-- The error of a reading, if it failed. -/
def rejection {α : Type} : Except TreeError α → Option TreeError
  | .ok _ => none
  | .error e => some e

theorem rejection_eq_some_iff {α : Type} {r : Except TreeError α} {e : TreeError} :
    rejection r = some e ↔ r = .error e := by
  cases r <;> simp [rejection]

/-! ### The first fault -/

theorem wordFault?_eq (word : String) :
    Json.wordFault? word =
      match Connective.ofWord? word with
      | some _ => none
      | none => some (.unknownOperator word) := by
  unfold Json.wordFault? Connective.ofWord?
  by_cases hand : word = "AND"
  · simp [hand]
  · by_cases hor : word = "OR" <;> simp [hand, hor]

/-- A leaf is rejected for its identifier, or else for its params. -/
theorem rejection_readLeaf (fields : Json.Object) :
    rejection (readLeaf fields) =
      ((Json.idFault? fields).or (Json.paramsFault? fields)).map .invalidLeaf := by
  unfold readLeaf Json.idFault? Json.paramsFault? Json.Fields.present?
  cases hid : fields.get? "id" with
  | none => rfl
  | some found =>
      cases found with
      | string id =>
          by_cases hne : id = ""
          · simp [hne, rejection]
          · simp only [if_neg hne, Option.none_or, Option.bind_some, Json.asText?, Option.getD_some]
            cases hparams : fields.get? "params" with
            | none => rfl
            | some params => cases params <;> rfl
      | _ => rfl

mutual
/-- A value is rejected for the first of its nodes that is malformed. -/
theorem rejection_ofJson : (v : Json) → rejection (ofJson v) = v.nodes.findSome? Json.fault?
  | .null => rfl
  | .bool _ => rfl
  | .number _ => rfl
  | .string word => by
      rw [Json.nodes, List.findSome?_singleton, Json.fault?, wordFault?_eq, ofJson]
      cases Connective.ofWord? word <;> rfl
      simp
  | .array [] => rfl
  | .array (head :: items) => by
      have hitems := rejection_ofJsonAll items
      rw [Json.nodes, List.findSome?_cons, ← hitems, ofJson]
      have hhead : rejection (headOperator head) = Json.fault? (.array (head :: items)) := by
        cases head with
        | string word =>
            rw [headOperator, Json.fault?, wordFault?_eq]
            cases Connective.ofWord? word <;> rfl
        | _ => rfl
      rw [← hhead]
      cases headOperator head with
      | error e => rfl
      | ok op => cases ofJsonAll items <;> rfl
  | .object fields => by
      rw [Json.nodes, List.findSome?_singleton, Json.fault?, ← rejection_readLeaf, ofJson]
      cases readLeaf fields <;> rfl
      simp
/-- Operands are rejected for the first of their nodes that is malformed. -/
theorem rejection_ofJsonAll : (items : List Json) →
    rejection (ofJsonAll items) = (Json.nodesOf items).findSome? Json.fault?
  | [] => rfl
  | item :: items => by
      rw [Json.nodesOf, List.findSome?_append, ← rejection_ofJson item,
        ← rejection_ofJsonAll items, ofJsonAll]
      cases ofJson item with
      | error e => rfl
      | ok t => cases ofJsonAll items <;> rfl
end

/-! ### What is accepted -/

/-- Params that can be read are absent, null or an object. -/
theorem readParams_eq_ok_iff (id : String) {found : Option Json} :
    (∃ params, readParams id found = .ok params) ↔
      found = none ∨ found = some .null ∨ ∃ params, found = some (.object params) := by
  cases found with
  | none => simp [readParams]
  | some v => cases v <;> simp [readParams]

/-- A leaf that can be read has an identifier and params that can be read. -/
theorem readLeaf_eq_ok {fields : Json.Object} {l : Leaf} (h : readLeaf fields = .ok l) :
    fields.get? "id" = some (.string l.id) ∧ l.id ≠ "" ∧
      readParams l.id (fields.get? "params") = .ok l.params := by
  unfold readLeaf at h
  cases hid : fields.get? "id" with
  | none => rw [hid] at h; cases h
  | some found =>
      rw [hid] at h
      cases found with
      | string id =>
          dsimp only at h
          split at h
          · cases h
          · next hne =>
              cases hparams : readParams id (fields.get? "params") with
              | error e => rw [hparams] at h; cases h
              | ok params =>
                  rw [hparams] at h
                  cases h
                  exact ⟨rfl, hne, hparams⟩
      | _ => cases h

/-- An array that can be read begins with the word of a connective and goes on with operands that
can be read. -/
theorem ofJson_array_eq_ok {head : Json} {items : List Json} {t : Tree}
    (h : ofJson (.array (head :: items)) = .ok t) :
    ∃ op ts, head = .string op.word ∧ ofJsonAll items = .ok ts ∧ t = combine op ts := by
  rw [ofJson] at h
  cases hhead : headOperator head with
  | error e => rw [hhead] at h; cases h
  | ok op =>
      cases hitems : ofJsonAll items with
      | error e => rw [hhead, hitems] at h; cases h
      | ok ts =>
          rw [hhead, hitems] at h
          cases h
          refine ⟨op, ts, ?_, rfl, rfl⟩
          cases head with
          | string word =>
              rw [headOperator] at hhead
              cases hword : Connective.ofWord? word with
              | none => rw [hword] at hhead; cases hhead
              | some op' =>
                  rw [hword] at hhead
                  cases hhead
                  rw [Connective.word_of_ofWord? hword]
          | _ => cases hhead

/-- A word that can be read is that of a connective. -/
theorem ofJson_string_eq_ok {word : String} {t : Tree} (h : ofJson (.string word) = .ok t) :
    ∃ op : Connective, word = op.word ∧ t = identity op := by
  rw [ofJson] at h
  cases hword : Connective.ofWord? word with
  | none => rw [hword] at h; cases h
  | some op =>
      rw [hword] at h
      cases h
      exact ⟨op, (Connective.word_of_ofWord? hword).symm, rfl⟩

/-- An object that can be read calls a filter. -/
theorem ofJson_object_eq_ok {fields : Json.Object} {t : Tree}
    (h : ofJson (.object fields) = .ok t) : ∃ l, readLeaf fields = .ok l ∧ t = leaf l := by
  rw [ofJson] at h
  cases hl : readLeaf fields with
  | error e => rw [hl] at h; cases h
  | ok l =>
      rw [hl] at h
      cases h
      exact ⟨l, rfl, rfl⟩

/-- Operands can be read when each of them can. -/
theorem ofJsonAll_cons_eq_ok {item : Json} {items : List Json} {ts : List Tree}
    (h : ofJsonAll (item :: items) = .ok ts) :
    ∃ t ts', ofJson item = .ok t ∧ ofJsonAll items = .ok ts' ∧ ts = t :: ts' := by
  rw [ofJsonAll] at h
  cases ht : ofJson item with
  | error e => rw [ht] at h; cases h
  | ok t =>
      cases hts : ofJsonAll items with
      | error e => rw [ht, hts] at h; cases h
      | ok ts' =>
          rw [ht, hts] at h
          cases h
          exact ⟨t, ts', rfl, rfl, rfl⟩

mutual
/-- What can be read is in the grammar, and is written again without superfluous members. -/
theorem sound_ofJson : (v : Json) → (t : Tree) → ofJson v = .ok t →
    v.IsTree ∧ t.toJson = v.trimmed
  | .null, _, h | .bool _, _, h | .number _, _, h | .array [], _, h => by cases h
  | .string word, t, h => by
      obtain ⟨op, rfl, rfl⟩ := ofJson_string_eq_ok h
      exact ⟨.identity op, rfl⟩
  | .array (head :: items), t, h => by
      obtain ⟨op, ts, rfl, hitems, rfl⟩ := ofJson_array_eq_ok h
      obtain ⟨htrees, hwritten⟩ := sound_ofJsonAll items ts hitems
      refine ⟨.combine op htrees, ?_⟩
      rw [toJson, hwritten]
      rfl
  | .object fields, t, h => by
      obtain ⟨l, hl, rfl⟩ := ofJson_object_eq_ok h
      obtain ⟨hid, hne, hparams⟩ := readLeaf_eq_ok hl
      refine ⟨.leaf hid hne ((readParams_eq_ok_iff l.id).mp ⟨_, hparams⟩), ?_⟩
      have hpresent : (fields.present? "params").getD (.object .nil) = .object l.params := by
        unfold Json.Fields.present?
        cases hfound : fields.get? "params" with
        | none =>
            rw [hfound] at hparams
            rw [← Except.ok.inj hparams]
            rfl
        | some found =>
            rw [hfound] at hparams
            cases found with
            | null => rw [← Except.ok.inj hparams]; rfl
            | object params => rw [← Except.ok.inj hparams]; rfl
            | _ => cases hparams
      rw [toJson, Json.trimmed, Json.callFields, hid, hpresent]
      rfl
/-- Operands that can be read are in the grammar, and are written again without superfluous
members. -/
theorem sound_ofJsonAll : (items : List Json) → (ts : List Tree) → ofJsonAll items = .ok ts →
    (∀ item ∈ items, item.IsTree) ∧ toJsonAll ts = Json.trimmedItems items
  | [], _, h => by
      cases h
      exact ⟨fun _ hitem => absurd hitem List.not_mem_nil, rfl⟩
  | item :: items, _, h => by
      obtain ⟨t, ts, ht, hts, rfl⟩ := ofJsonAll_cons_eq_ok h
      obtain ⟨htree, hwritten⟩ := sound_ofJson item t ht
      obtain ⟨htrees, hwrittenAll⟩ := sound_ofJsonAll items ts hts
      refine ⟨List.forall_mem_cons.mpr ⟨htree, htrees⟩, ?_⟩
      rw [toJsonAll, hwritten, hwrittenAll, Json.trimmedItems]
end

/-- Operands can be read when each of them can. -/
theorem exists_ofJsonAll {items : List Json} (h : ∀ item ∈ items, ∃ t, ofJson item = .ok t) :
    ∃ ts, ofJsonAll items = .ok ts := by
  induction items with
  | nil => exact ⟨[], rfl⟩
  | cons item items ih =>
      obtain ⟨⟨t, ht⟩, hitems⟩ := List.forall_mem_cons.mp h
      obtain ⟨ts, hts⟩ := ih hitems
      exact ⟨t :: ts, by rw [ofJsonAll, ht, hts]⟩

/-- What is in the grammar can be read. -/
theorem exists_ofJson {v : Json} (h : v.IsTree) : ∃ t, ofJson v = .ok t := by
  induction h with
  | identity op => exact ⟨identity op, by rw [ofJson, Connective.ofWord?_word]⟩
  | combine op _ ih =>
      obtain ⟨ts, hts⟩ := exists_ofJsonAll ih
      exact ⟨combine op ts, by rw [ofJson, headOperator, Connective.ofWord?_word, hts]⟩
  | @leaf fields id hid hne hparams =>
      obtain ⟨params, hread⟩ := (readParams_eq_ok_iff id).mpr hparams
      have hleaf : readLeaf fields = .ok ⟨id, params⟩ := by
        simp only [readLeaf, hid, if_neg hne, hread]
      exact ⟨leaf ⟨id, params⟩, by rw [ofJson, hleaf]⟩

/-! ### Written trees -/

/-- A written leaf is read again, when it has an identifier. -/
theorem readLeaf_leafFields {l : Leaf} (h : l.id ≠ "") : readLeaf (leafFields l) = .ok l := by
  simp [readLeaf, leafFields, Json.Fields.get?, h, readParams]

/-- Written operands are read again when each of them is. -/
theorem ofJsonAll_toJsonAll {ts : List Tree} (h : ∀ t ∈ ts, ofJson t.toJson = .ok t) :
    ofJsonAll (toJsonAll ts) = .ok ts := by
  induction ts with
  | nil => rfl
  | cons t ts ih =>
      obtain ⟨ht, hts⟩ := List.forall_mem_cons.mp h
      rw [toJsonAll, ofJsonAll, ht, ih hts]

/-- A written tree is read again, when its leaves have identifiers. -/
theorem ofJson_toJson {t : Tree} (h : ∀ l ∈ t.leaves, l.id ≠ "") : ofJson t.toJson = .ok t := by
  induction t using operand_induction with
  | identity op => rw [toJson, ofJson, Connective.ofWord?_word]
  | leaf l => rw [toJson, ofJson, readLeaf_leafFields (h l (List.mem_singleton_self l))]
  | combine op ts ih =>
      have hts : ofJsonAll (toJsonAll ts) = .ok ts := by
        refine ofJsonAll_toJsonAll fun t ht => ih t ht fun l hl => h l ?_
        rw [leaves_combine, List.mem_flatMap]
        exact ⟨t, ht, hl⟩
      rw [toJson, ofJson, headOperator, Connective.ofWord?_word, hts]

/-- A value stands for a tree exactly when it can be read. The tree is then written as that value,
with its leaves cut down. A value that stands for no tree is rejected for the first malformed
node. A tree whose leaves have identifiers is read again from what it is written as. -/
theorem ofJson_accepts_grammar :
    (∀ v : Json,
      ((∃ t, ofJson v = .ok t) ↔ v.IsTree) ∧
        (∀ t, ofJson v = .ok t → t.toJson = v.trimmed) ∧
        ∀ e, ofJson v = .error e ↔ v.nodes.findSome? Json.fault? = some e) ∧
      ∀ t : Tree, (∀ l ∈ t.leaves, l.id ≠ "") → ofJson t.toJson = .ok t := by
  refine ⟨fun v => ⟨⟨?_, exists_ofJson⟩, fun t ht => (sound_ofJson v t ht).2, fun e => ?_⟩,
    fun t ht => ofJson_toJson ht⟩
  · rintro ⟨t, ht⟩
    exact (sound_ofJson v t ht).1
  · rw [← rejection_ofJson, rejection_eq_some_iff]

/-- A leaf with a member too many and params that are null is cut down, and an unknown word at the
head of an array is reported before a malformed operand. -/
theorem ofJson_trims_leaf :
    let v := Json.array [.string "OR", .string "AND",
      .ofMembers [("id", .string "model"), ("note", .bool true), ("params", .null)]]
    let t := combine .or [identity .and, leafOf "model" .null]
    let broken := Json.array [.string "XOR", .null]
    v.IsTree ∧ ofJson v = .ok t ∧ t.toJson = v.trimmed ∧
      (∀ l ∈ t.leaves, l.id ≠ "") ∧ ofJson t.toJson = .ok t ∧
      ofJson broken = .error (.unknownOperator "XOR") := by
  intro v t broken
  obtain ⟨haccepts, hwritten, -⟩ := ofJson_accepts_grammar.1 v
  have ht : ofJson v = .ok t := rfl
  have hids : ∀ l ∈ t.leaves, l.id ≠ "" := by decide
  exact ⟨haccepts.mp ⟨t, ht⟩, ht, hwritten t ht, hids, ofJson_accepts_grammar.2 t hids,
    ((ofJson_accepts_grammar.1 broken).2.2 _).mpr rfl⟩

end Tree

end RunRadar
