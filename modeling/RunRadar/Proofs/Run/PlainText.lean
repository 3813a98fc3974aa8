import Mathlib.Algebra.Ring.Nat
import RunRadar.Filter.Catalog
import RunRadar.Proofs.Json.RoundTrip
import RunRadar.Run.Virtual

/-!
# RunRadar.Proofs.Run.PlainText

The **plain text of payloads**. A list becomes lines, one for each of its entries, and the entries
of lists in it count as its own (`Json.plainText?_eq`). So the text of a list is shorter than its
JSON (`Json.length_plainText?_lt`), and of the payloads without a message only objects become their
compact JSON (`flattens_to_json_iff_object`): a list of two numbers does not
(`flattened_numbers_are_not_json`). The filters that look through texts see nothing of a payload
but its plain text.
-/

namespace RunRadar

namespace Json

/-! ### Messages -/

/-- A message, which is an object with a string under `content`, stands in a value at some
depth. -/
inductive HoldsMessage : Json → Prop
  | here {fields : Object} {content : String} (h : fields.get? "content" = some (.string content)) :
      HoldsMessage (.object fields)
  | item {items : List Json} {v : Json} (hv : v ∈ items) (h : HoldsMessage v) :
      HoldsMessage (.array items)
  | member {fields : Object} {key : String} {v : Json} (hv : (key, v) ∈ fields.toList)
      (h : HoldsMessage v) : HoldsMessage (.object fields)

theorem holdsMessage_array {items : List Json} :
    HoldsMessage (.array items) ↔ ∃ v ∈ items, HoldsMessage v := by
  constructor
  · intro h
    cases h with
    | item hv h => exact ⟨_, hv, h⟩
  · rintro ⟨v, hv, h⟩
    exact .item hv h

theorem holdsMessage_object {fields : Object} :
    HoldsMessage (.object fields) ↔ (∃ content, fields.get? "content" = some (.string content)) ∨
      ∃ m ∈ fields.toList, HoldsMessage m.2 := by
  constructor
  · intro h
    cases h with
    | here h => exact .inl ⟨_, h⟩
    | member hv h => exact .inr ⟨_, hv, h⟩
  · rintro (⟨content, h⟩ | ⟨m, hm, h⟩)
    · exact .here h
    · exact .member hm h

theorem messageContent?_of_quiet {fields : Object} (h : ¬ HoldsMessage (.object fields)) :
    messageContent? fields = none := by
  unfold messageContent?
  split
  · next content hcontent => exact absurd (.here hcontent) h
  · rfl

/-- An object that is no message becomes its compact JSON. -/
theorem plainText?_object {fields : Object} (h : ¬ HoldsMessage (.object fields)) :
    plainText? (.object fields) = some (text (.object fields)) := by
  rw [plainText?, messageContent?_of_quiet h]

/-! ### Entries -/

mutual
/-- What stands on a line of its own in the plain text of a payload. Those of a list are those of
its items, and a list without any is an empty line. -/
def entries : Json → List String
  | .null => []
  | .string s => [s]
  | .array items => if entriesOf items = [] then [""] else entriesOf items
  | .object fields => [(messageContent? fields).getD (text (.object fields))]
  | .bool b => [text (.bool b)]
  | .number n => [text (.number n)]
/-- What stands on lines of their own for some items. -/
def entriesOf : List Json → List String
  | [] => []
  | item :: items => entries item ++ entriesOf items
end

/-- The plain texts of items are their entries on lines, if there are any. -/
theorem plainTexts_cases {items : List Json}
    (h : ∀ v ∈ items, v.plainText? =
      if v.entries = [] then none else some ("\n".intercalate v.entries)) :
    plainTexts items = [] ∧ entriesOf items = [] ∨
      plainTexts items ≠ [] ∧ entriesOf items ≠ [] ∧
        "\n".intercalate (plainTexts items) = "\n".intercalate (entriesOf items) := by
  induction items with
  | nil => exact .inl ⟨rfl, rfl⟩
  | cons item items ih =>
      obtain ⟨hitem, hitems⟩ := List.forall_mem_cons.mp h
      have ih := ih hitems
      rw [plainTexts, entriesOf, hitem]
      by_cases hnone : item.entries = []
      · rw [if_pos hnone, hnone]
        exact ih
      · rw [if_neg hnone]
        refine .inr ⟨List.cons_ne_nil _ _, List.append_ne_nil_of_left_ne_nil hnone _, ?_⟩
        dsimp only
        rcases ih with ⟨htexts, hentries⟩ | ⟨htexts, hentries, hsame⟩
        · rw [htexts, hentries, List.append_nil, String.intercalate_singleton]
        · rw [String.intercalate_cons_of_ne_nil htexts,
            String.intercalate_append_of_ne_nil hnone hentries, hsame]

/-- The plain text of a payload is its entries on lines of their own. Null has none. -/
theorem plainText?_eq (v : Json) :
    v.plainText? = if v.entries = [] then none else some ("\n".intercalate v.entries) := by
  induction v using value_induction with
  | null => rfl
  | bool b => simp [plainText?, entries]
  | number n => simp [plainText?, entries]
  | string s => simp [plainText?, entries]
  | object fields _ =>
      rw [plainText?, entries]
      cases messageContent? fields <;> simp
  | array items ih =>
      rw [plainText?, entries]
      rcases plainTexts_cases ih with ⟨htexts, hentries⟩ | ⟨-, hentries, hsame⟩
      · simp [htexts, hentries]
      · rw [if_neg hentries, if_neg hentries, hsame]

/-! ### Lengths -/

mutual
/-- What is written behind a value does not change how the value is written. -/
theorem write_append : (v : Json) → (rest behind : List Char) →
    v.write (rest ++ behind) = v.write rest ++ behind
  | .null, _, _ | .bool true, _, _ | .bool false, _, _ | .array [], _, _
  | .object .nil, _, _ => rfl
  | .number (.integer ..), _, _ | .number (.double ..), _, _ => by
      simp only [write, Number.write, List.append_assoc]
  | .string text, _, _ => by
      simp only [write, writeString, List.cons_append, List.append_assoc]
  | .array (item :: items), rest, behind => by
      have hitems := writeItems_append items (']' :: rest) behind
      rw [List.cons_append] at hitems
      rw [write, write, hitems, write_append item, List.cons_append]
  | .object (.cons key _ value fields), rest, behind => by
      have hfields := fields.write_append ('\x7d' :: rest) behind
      rw [List.cons_append] at hfields
      simp only [write, writeString, hfields, write_append value, List.cons_append,
        List.append_assoc]
theorem writeItems_append : (items : List Json) → (rest behind : List Char) →
    writeItems items (rest ++ behind) = writeItems items rest ++ behind
  | [], _, _ => rfl
  | item :: items, rest, behind => by
      rw [writeItems, writeItems, writeItems_append items, write_append item, List.cons_append]
theorem Fields.write_append : {lower : Option String} → (fields : Fields lower) →
    (rest behind : List Char) → fields.write (rest ++ behind) = fields.write rest ++ behind
  | _, .nil, _, _ => rfl
  | _, .cons key _ value fields, rest, behind => by
      simp only [Fields.write, writeString, fields.write_append, write_append value,
        List.cons_append, List.append_assoc]
end

theorem length_write (v : Json) (rest : List Char) :
    (v.write rest).length = v.text.length + rest.length := by
  rw [text, String.length_ofList, ← List.length_append, ← write_append, List.nil_append]

/-- No character of a quoted string gets lost. -/
theorem length_le_flatMap_escape (cs : List Char) : cs.length ≤ (cs.flatMap escape).length := by
  induction cs with
  | nil => exact Nat.le_refl _
  | cons c cs ih =>
      have hc : 1 ≤ (escape c).length := by
        unfold escape
        repeat' split
        all_goals simp
      rw [List.flatMap_cons, List.length_append, List.length_cons]
      omega

/-- Joined by single characters, texts need a place more each at most. -/
theorem length_intercalate_le (texts : List String) :
    ("\n".intercalate texts).length ≤ (texts.map (·.length + 1)).sum := by
  induction texts with
  | nil => exact Nat.le_refl _
  | cons s texts ih =>
      cases texts with
      | nil => simp
      | cons t texts =>
          have hline : "\n".length = 1 := rfl
          rw [String.intercalate_cons_cons, List.map_cons, List.sum_cons, String.length_append,
            String.length_append, hline]
          omega

/-- Items need as much room as their plain texts with a character between them. -/
theorem length_plainTexts_le {items : List Json}
    (h : ∀ v ∈ items, ∀ s, v.plainText? = some s → s.length ≤ v.text.length) (rest : List Char) :
    ((plainTexts items).map (·.length + 1)).sum + rest.length ≤ (writeItems items rest).length := by
  induction items with
  | nil => simp [plainTexts, writeItems]
  | cons item items ih =>
      obtain ⟨hitem, hitems⟩ := List.forall_mem_cons.mp h
      have ih := ih hitems
      rw [plainTexts, writeItems, List.length_cons, length_write]
      cases hs : item.plainText? with
      | none =>
          dsimp only
          omega
      | some s =>
          have hle := hitem s hs
          rw [List.map_cons, List.sum_cons]
          omega

/-- The brackets of a list are missing in its plain text. -/
theorem length_plainTexts_lt {items : List Json}
    (h : ∀ v ∈ items, ∀ s, v.plainText? = some s → s.length ≤ v.text.length) :
    ("\n".intercalate (plainTexts items)).length < (text (.array items)).length := by
  have hjoined := length_intercalate_le (plainTexts items)
  have hitems := length_plainTexts_le h [']']
  cases items with
  | nil => decide
  | cons item items =>
      -- the comma that would be in front of the items stands for the opening bracket
      have hbrackets : (text (.array (item :: items))).length =
          (writeItems (item :: items) [']']).length := by
        rw [text, String.length_ofList, write, writeItems, List.length_cons, List.length_cons]
      rw [List.length_singleton] at hitems
      omega

/-- Plain text is no longer than JSON. -/
theorem length_plainText?_le {v : Json} (hquiet : ¬ v.HoldsMessage) {s : String}
    (h : v.plainText? = some s) : s.length ≤ v.text.length := by
  induction v using value_induction generalizing s with
  | null => cases h
  | bool b => cases h; exact Nat.le_refl _
  | number n => cases h; exact Nat.le_refl _
  | string t =>
      rw [plainText?, Option.some.injEq] at h
      subst h
      have hescaped := length_le_flatMap_escape t.toList
      rw [String.length_toList] at hescaped
      rw [Json.text, String.length_ofList, write, writeString, List.length_cons,
        List.length_append]
      omega
  | object fields _ =>
      rw [plainText?_object hquiet, Option.some.injEq] at h
      exact h ▸ Nat.le_refl _
  | array items ih =>
      cases h
      refine Nat.le_of_lt (length_plainTexts_lt fun v hv s hs => ih v hv ?_ hs)
      exact fun hmessage => hquiet (.item hv hmessage)

/-- The plain text of a list is shorter than its JSON. -/
theorem length_plainText?_lt {items : List Json} (hquiet : ¬ HoldsMessage (.array items))
    {s : String} (h : plainText? (.array items) = some s) :
    s.length < (text (.array items)).length := by
  cases h
  refine length_plainTexts_lt fun v hv s hs => length_plainText?_le ?_ hs
  exact fun hmessage => hquiet (.item hv hmessage)

end Json

/-! ### What filters see -/

/-- The filters that look through texts tell runs apart by the plain texts of their payloads
only. -/
theorem Filter.Scanned.evaluate_congr {filter : Filter} (h : filter ∈ filters)
    {evaluate : Evaluator} (hevaluate : filter.evaluator? = some evaluate) {run run' : Run}
    (htexts : ∀ p, run.text? p = run'.text? p) (moment : Nat) (params : ParamReader) :
    evaluate moment run params = evaluate moment run' params := by
  simp only [filters, List.mem_cons, List.not_mem_nil, or_false] at h
  rcases h with rfl | rfl | rfl | rfl | rfl | rfl
  all_goals
    cases hevaluate
    simp only [Evaluator.steady, PersonalData.evaluate, pattern, length, json, htexts]

namespace Run

/-- Of the lists and objects without a message in them, exactly the objects become their compact
JSON. A list becomes lines, one for each entry, and these are shorter than its JSON. What the
filters that look through texts find out about a run depends on these texts and on nothing else of
it. -/
theorem flattens_to_json_iff_object (run : Run) (p : Payload) (v : Json)
    (hv : run.payload? p = some v)
    (hnested : (∃ items, v = .array items) ∨ ∃ fields, v = .object fields)
    (hquiet : ¬ v.HoldsMessage) :
    (run.text? p = some v.text ↔ ∃ fields, v = .object fields) ∧
    (∀ items, v = .array items → run.text? p = some ("\n".intercalate v.entries) ∧
      ("\n".intercalate v.entries).length < v.text.length) ∧
    ∀ run' : Run, (∀ q, run'.text? q = run.text? q) → ∀ filter ∈ Filter.Scanned.filters,
      ∀ evaluate, filter.evaluator? = some evaluate →
        ∀ moment params, evaluate moment run' params = evaluate moment run params := by
  have htext : run.text? p = v.plainText? := by rw [text?, hv, Option.bind_some]
  have hlist : ∀ items, v = .array items → run.text? p = some ("\n".intercalate v.entries) ∧
      ("\n".intercalate v.entries).length < v.text.length := by
    rintro items rfl
    have hlines : Json.plainText? (.array items) =
        some ("\n".intercalate (Json.entries (.array items))) := by
      rw [Json.plainText?_eq, if_neg]
      rw [Json.entries]
      split
      · exact List.cons_ne_nil _ _
      · assumption
    exact ⟨htext.trans hlines, Json.length_plainText?_lt hquiet hlines⟩
  refine ⟨?_, hlist, ?_⟩
  · rcases hnested with ⟨items, rfl⟩ | ⟨fields, rfl⟩
    · obtain ⟨hlines, hlt⟩ := hlist items rfl
      rw [hlines]
      constructor
      · intro h
        exact absurd (congrArg String.length (Option.some.inj h)) (Nat.ne_of_lt hlt)
      · rintro ⟨fields, h⟩
        cases h
    · rw [htext, Json.plainText?_object hquiet]
      exact ⟨fun _ => ⟨fields, rfl⟩, fun _ => rfl⟩
  · intro run' htexts filter hfilter evaluate hevaluate moment params
    exact Filter.Scanned.evaluate_congr hfilter hevaluate htexts moment params

/-- Of a list in a list only the entries are left, and an object under which no string stands as its
content is one of them. -/
theorem flattens_to_json_iff_object_nested :
    let v : Json := .array [.array [.ofInt 1, .null], .object (.ofList [("content", .ofInt 2)])]
    let run := ({ output := some v } : VirtualRun).runUntil ⟨0, 0, by decide⟩ none
    run.text? .output = some "1\n\x7b\"content\":2\x7d" ∧ run.text? .output ≠ some v.text := by
  intro v run
  have hnull : ¬ Json.HoldsMessage .null := nofun
  have hnumber : ∀ i, ¬ Json.HoldsMessage (.ofInt i) := nofun
  have hfields : ¬ Json.HoldsMessage (.object (.ofList [("content", .ofInt 2)])) := by
    rw [Json.holdsMessage_object]
    rintro (⟨content, h⟩ | ⟨m, hm, h⟩)
    · cases h
    · obtain rfl := List.mem_singleton.mp hm
      exact hnumber 2 h
  have hquiet : ¬ v.HoldsMessage := by
    simp [v, Json.holdsMessage_array, hnull, hnumber, hfields]
  obtain ⟨hobject, hlist, -⟩ := flattens_to_json_iff_object run .output v rfl (.inl ⟨_, rfl⟩) hquiet
  refine ⟨(hlist _ rfl).1, fun h => ?_⟩
  obtain ⟨fields, hv⟩ := hobject.mp h
  exact absurd hv nofun

/-- A list of two numbers becomes two lines. -/
theorem flattened_numbers_are_not_json :
    ¬ ∀ (run : Run) (p : Payload) (v : Json), run.payload? p = some v →
      ((∃ items, v = .array items) ∨ ∃ fields, v = .object fields) → ¬ v.HoldsMessage →
      run.text? p = some v.text := by
  intro h
  let v : Json := .array [.ofInt 1, .ofInt 2]
  let run := ({ output := some v } : VirtualRun).runUntil ⟨0, 0, by decide⟩ none
  have hnumber : ∀ i, ¬ Json.HoldsMessage (.ofInt i) := nofun
  have hquiet : ¬ v.HoldsMessage := by simp [v, Json.holdsMessage_array, hnumber]
  have htext := h run .output v rfl (.inl ⟨_, rfl⟩) hquiet
  exact absurd htext (by decide)

end Run

end RunRadar
