import RunRadar.Proofs.Json.Scalar
import RunRadar.Proofs.Json.Value

/-!
# RunRadar.Proofs.Json.RoundTrip

The reader of JSON text **undoes the writer**, exactly as far as the reader goes. A value whose
numbers are whole is read from its own text when it does not nest too deeply (`read?_text`), and
otherwise nothing is read.

Both halves are one induction over the value. It says what is read from the text of the value with
any text behind it, for any room that is left; where an array or an object has a part that is too
deep, the parts in front of it have been read, and then the reading fails.
-/

namespace RunRadar.Json

/-! ### Where values begin -/

/-- Nothing is skipped in front of a character that is no blank. -/
theorem skipBlanks_cons {c : Char} (h : isBlank c = false) (cs : List Char) :
    skipBlanks (c :: cs) = c :: cs := List.dropWhile_cons_of_neg (by simp [h])

/-- A digit or a sign is no blank and closes no array. -/
theorem number_head {c : Char} (h : c = '-' ∨ c.isDigit = true) :
    isBlank c = false ∧ c ≠ ']' := by
  rcases h with rfl | h
  · decide
  · refine ⟨Bool.eq_false_iff.mpr fun hblank => ?_, fun hc => ?_⟩
    · have hcases : ((c = ' ' ∨ c = '\n') ∨ c = '\t') ∨ c = '\r' := by
        simpa [isBlank] using hblank
      rcases hcases with ((rfl | rfl) | rfl) | rfl <;> exact absurd h (by decide)
    · subst hc
      exact absurd h (by decide)

/-- A written whole number begins with a sign or a digit. -/
theorem exists_write_integer (i : Int) (fits : Fits i) (rest : List Char) :
    ∃ c cs, (Number.integer i fits).write rest = c :: cs ∧ (c = '-' ∨ c.isDigit = true) := by
  rw [write_integer]
  by_cases hi : i < 0
  · exact ⟨'-', Nat.toDigits 10 i.natAbs ++ rest, by simp [sign, hi], .inl rfl⟩
  · obtain ⟨d, ds, hds⟩ :=
      List.exists_cons_of_ne_nil (Nat.toDigits_ne_nil (n := i.natAbs) (b := 10))
    refine ⟨d, ds ++ rest, by simp [sign, hi, hds], .inr ?_⟩
    exact Nat.isDigit_of_mem_toDigits (b := 10) (n := i.natAbs) (by decide) (by decide)
      (by simp [hds])

/-- A written value begins with a character that is no blank and closes no array. -/
theorem exists_write_eq_cons {v : Json} (h : v.isWhole = true) (rest : List Char) :
    ∃ c cs, v.write rest = c :: cs ∧ isBlank c = false ∧ c ≠ ']' := by
  cases v with
  | null => exact ⟨_, _, rfl, by decide⟩
  | bool b => cases b <;> exact ⟨_, _, rfl, by decide⟩
  | number n =>
      cases n with
      | integer i fits =>
          obtain ⟨c, cs, hcs, hc⟩ := exists_write_integer i fits rest
          exact ⟨c, cs, hcs, number_head hc⟩
      | double x finite => cases h
  | string text => exact ⟨_, _, rfl, by decide⟩
  | array items => cases items <;> exact ⟨_, _, rfl, by decide⟩
  | object fields => cases fields <;> exact ⟨_, _, rfl, by decide⟩

/-- No blanks stand in front of a written value. -/
theorem skipBlanks_write {v : Json} (h : v.isWhole = true) (rest : List Char) :
    skipBlanks (v.write rest) = v.write rest := by
  obtain ⟨c, cs, hcs, hblank, -⟩ := exists_write_eq_cons h rest
  rw [hcs, skipBlanks_cons hblank]

/-! ### Parts of arrays and objects -/

/-- From the text of a value, with any text behind it, the value is read if there is room for it.
Otherwise nothing is. -/
def ReadsBack (room : Nat) (v : Json) : Prop :=
  ∀ rest, EndsNumber rest →
    readValue room (v.write rest) = if v.depth ≤ room then some (v, rest) else none

section Items

variable {room steps : Nat} {item : Json}

/-- The last item is the only one that is left. -/
theorem readItems_last (h : item.isWhole = true) (hread : ReadsBack room item) (rest : List Char) :
    readItems (readValue room) (steps + 1) (item.write (']' :: rest)) =
      if item.depth ≤ room then some ([item], rest) else none := by
  rw [readItems, skipBlanks_write h, hread _ (endsNumber_cons (by simp) rest)]
  by_cases hdepth : item.depth ≤ room
  · simp only [if_pos hdepth]
    rfl
  · simp only [if_neg hdepth]

/-- Behind an item and a comma, further items are read. -/
theorem readItems_next (h : item.isWhole = true) (hread : ReadsBack room item) (rest : List Char) :
    readItems (readValue room) (steps + 1) (item.write (',' :: rest)) =
      if item.depth ≤ room then
        (readItems (readValue room) steps rest).map fun r => (item :: r.1, r.2)
      else none := by
  rw [readItems, skipBlanks_write h, hread _ (endsNumber_cons (by simp) rest)]
  by_cases hdepth : item.depth ≤ room
  · simp only [if_pos hdepth]
    rfl
  · simp only [if_neg hdepth]

/-- Items of an array are read one after the other. -/
theorem readItems_write {items : List Json}
    (h : ∀ v ∈ item :: items, v.isWhole = true ∧ ReadsBack room v) (hsteps : items.length < steps)
    (rest : List Char) :
    readItems (readValue room) steps (item.write (writeItems items (']' :: rest))) =
      if depthOfItems (item :: items) ≤ room then some (item :: items, rest) else none := by
  -- every item takes one step, so the steps do not run out before the closing bracket
  induction items generalizing item steps with
  | nil =>
      obtain ⟨steps, rfl⟩ := Nat.exists_eq_succ_of_ne_zero (Nat.ne_zero_of_lt hsteps)
      obtain ⟨hwhole, hread⟩ := h item List.mem_cons_self
      rw [writeItems, readItems_last hwhole hread, depthOfItems, depthOfItems, Nat.max_zero]
  | cons next items ih =>
      obtain ⟨steps, rfl⟩ := Nat.exists_eq_succ_of_ne_zero (Nat.ne_zero_of_lt hsteps)
      obtain ⟨⟨hwhole, hread⟩, hnext⟩ := List.forall_mem_cons.mp h
      have hroom : depthOfItems (item :: next :: items) ≤ room ↔
          item.depth ≤ room ∧ depthOfItems (next :: items) ≤ room := Nat.max_le
      rw [writeItems, readItems_next hwhole hread, ih hnext (Nat.lt_of_succ_lt_succ hsteps)]
      by_cases hdepth : item.depth ≤ room
      · by_cases hdepths : depthOfItems (next :: items) ≤ room <;> simp [hroom, hdepth, hdepths]
      · simp [hroom, hdepth]

end Items

section Members

variable {room steps : Nat} {value : Json}

/-- The last member is put into what has been read. -/
theorem readMembers_last (key : String) (read : Object) (h : value.isWhole = true)
    (hread : ReadsBack room value) (rest : List Char) :
    readMembers (readValue room) (steps + 1) read
        (writeString key (':' :: value.write ('\x7d' :: rest))) =
      if value.depth ≤ room then some (read.insert key value, rest) else none := by
  rw [writeString, readMembers, skipBlanks_cons (by decide)]
  simp only [readString_flatMap_escape, skipBlanks_cons (c := ':') rfl, skipBlanks_write h,
    hread _ (endsNumber_cons (.inr (.inr rfl)) rest), String.ofList_toList]
  by_cases hdepth : value.depth ≤ room
  · simp only [if_pos hdepth]
    rfl
  · simp only [if_neg hdepth]

/-- Behind a member and a comma, further members are read. -/
theorem readMembers_next (key : String) (read : Object) (h : value.isWhole = true)
    (hread : ReadsBack room value) (rest : List Char) :
    readMembers (readValue room) (steps + 1) read
        (writeString key (':' :: value.write (',' :: rest))) =
      if value.depth ≤ room then readMembers (readValue room) steps (read.insert key value) rest
      else none := by
  rw [writeString, readMembers, skipBlanks_cons (by decide)]
  simp only [readString_flatMap_escape, skipBlanks_cons (c := ':') rfl, skipBlanks_write h,
    hread _ (endsNumber_cons (.inl rfl) rest), String.ofList_toList]
  by_cases hdepth : value.depth ≤ room
  · simp only [if_pos hdepth]
    rfl
  · simp only [if_neg hdepth]

end Members

/-- Members of an object are read one after the other, each put into what has been read. -/
theorem readMembers_write {room : Nat} : {lower : Option String} → (fields : Fields lower) →
    (∀ m ∈ fields.toList, m.2.isWhole = true ∧ ReadsBack room m.2) →
    ∀ {steps : Nat} (key : String) {value : Json} (read : Object) (rest : List Char),
      value.isWhole = true → ReadsBack room value → fields.toList.length < steps →
      readMembers (readValue room) steps read
          (writeString key (':' :: value.write (fields.write ('\x7d' :: rest)))) =
        if max value.depth fields.depth ≤ room then
          some (((key, value) :: fields.toList).foldl (fun fields m => fields.insert m.1 m.2) read,
            rest)
        else none
  | _, .nil, _, steps, key, value, read, rest, hwhole, hread, hsteps => by
      obtain ⟨steps, rfl⟩ := Nat.exists_eq_succ_of_ne_zero (Nat.ne_zero_of_lt hsteps)
      rw [Fields.write, readMembers_last key read hwhole hread, Fields.depth, Nat.max_zero]
      rfl
  | lower, .cons next above nextValue fields, h, steps, key, value, read, rest, hwhole, hread,
      hsteps => by
      obtain ⟨steps, rfl⟩ := Nat.exists_eq_succ_of_ne_zero (Nat.ne_zero_of_lt hsteps)
      obtain ⟨⟨hnextWhole, hnextRead⟩, hfields⟩ := List.forall_mem_cons.mp h
      -- the recursion is on the members behind the comma, with one more member read
      have hmembers := readMembers_write fields hfields next (read.insert key value) rest hnextWhole
        hnextRead (Nat.lt_of_succ_lt_succ hsteps)
      have hroom : max value.depth (Fields.cons next above nextValue fields).depth ≤ room ↔
          value.depth ≤ room ∧ max nextValue.depth fields.depth ≤ room := Nat.max_le
      rw [Fields.write, readMembers_next key read hwhole hread, hmembers]
      by_cases hdepth : value.depth ≤ room
      · simp only [hroom, hdepth, true_and, if_true]
        rfl
      · simp only [hroom, hdepth, false_and, if_false]

/-! ### Values -/

mutual
/-- What is written behind a value is a part of the text. -/
theorem length_le_write : (v : Json) → (rest : List Char) → rest.length ≤ (v.write rest).length
  | .null, _ | .bool true, _ | .bool false, _ | .array [], _ | .object .nil, _ => by
      simp only [write, List.length_cons]
      omega
  | .number (.integer ..), _ | .number (.double ..), _ => by
      simp [write, Number.write]
  | .string text, _ => by
      simp only [write, writeString, List.length_cons, List.length_append]
      omega
  | .array (item :: items), rest => by
      have hitem := length_le_write item (writeItems items (']' :: rest))
      have hitems := length_le_writeItems items (']' :: rest)
      simp only [write, List.length_cons] at hitems ⊢
      omega
  | .object (.cons key _ value fields), rest => by
      have hvalue := length_le_write value (fields.write ('\x7d' :: rest))
      have hfields := fields.length_le_write ('\x7d' :: rest)
      simp only [write, writeString, List.length_cons, List.length_append] at hfields ⊢
      omega
/-- Every item has a part of the text. -/
theorem length_le_writeItems : (items : List Json) → (rest : List Char) →
    items.length + rest.length ≤ (writeItems items rest).length
  | [], _ => by simp [writeItems]
  | item :: items, rest => by
      have hitem := length_le_write item (writeItems items rest)
      have hitems := length_le_writeItems items rest
      simp only [writeItems, List.length_cons]
      omega
/-- Every member has a part of the text. -/
theorem Fields.length_le_write : {lower : Option String} → (fields : Fields lower) →
    (rest : List Char) → fields.toList.length + rest.length ≤ (fields.write rest).length
  | _, .nil, _ => by simp [Fields.write]
  | _, .cons key _ value fields, rest => by
      have hvalue := length_le_write value (fields.write rest)
      have hfields := fields.length_le_write rest
      simp only [Fields.write, writeString, Fields.toList_cons, List.length_cons,
        List.length_append]
      omega
end

/-- What begins with a sign or a digit is read as a number. -/
theorem readValue_number {c : Char} (hc : c = '-' ∨ c.isDigit = true) (room : Nat)
    (cs : List Char) :
    readValue room (c :: cs) = (readNumber (c :: cs)).map fun r => (.number r.1, r.2) := by
  have hne (d : Char) (hd : ¬(d = '-' ∨ d.isDigit = true)) : c ≠ d := fun heq => hd (heq ▸ hc)
  have hn := hne 'n' (by decide)
  have ht := hne 't' (by decide)
  have hf := hne 'f' (by decide)
  have hquote := hne '"' (by decide)
  have hbracket := hne '[' (by decide)
  have hbrace := hne '\x7b' (by decide)
  unfold readValue
  split <;> first | rfl | (next heq => exact absurd (List.cons.inj heq).1 (by assumption))

/-- An array that is not empty is read item by item. -/
theorem readValue_array (room : Nat) {c : Char} {cs : List Char}
    (hblank : isBlank c = false) (hc : c ≠ ']') :
    readValue (room + 1) ('[' :: c :: cs) =
      (readItems (readValue room) (c :: cs).length (c :: cs)).map fun r => (.array r.1, r.2) := by
  rw [readValue, skipBlanks_cons hblank]
  split
  · next heq => exact absurd (List.cons.inj heq).1 hc
  · rfl

/-- An object that is not empty is read member by member. -/
theorem readValue_object (room : Nat) (cs : List Char) :
    readValue (room + 1) ('\x7b' :: '"' :: cs) =
      (readMembers (readValue room) ('"' :: cs).length .nil ('"' :: cs)).map fun r =>
        (.object r.1, r.2) := rfl

/-- An array is read back when its items are: behind the bracket there has to be room for each. -/
theorem readsBack_array {items : List Json} (hwhole : ∀ v ∈ items, v.isWhole = true)
    (hback : ∀ room, ∀ v ∈ items, ReadsBack room v) (room : Nat) :
    ReadsBack room (.array items) := by
  intro rest _
  cases items with
  | nil => cases room <;> rfl
  | cons item items =>
      cases room with
      | zero => rfl -- the bracket alone takes room
      | succ room =>
          have hsteps : items.length < (item.write (writeItems items (']' :: rest))).length := by
            have hitem := length_le_write item (writeItems items (']' :: rest))
            have hitems := length_le_writeItems items (']' :: rest)
            simp only [List.length_cons] at hitems
            omega
          have hread := readItems_write (fun v hv => ⟨hwhole v hv, hback room v hv⟩) hsteps rest
          obtain ⟨c, cs, hcs, hblank, hc⟩ := exists_write_eq_cons
            (hwhole item List.mem_cons_self) (writeItems items (']' :: rest))
          rw [write, hcs, readValue_array room hblank hc, ← hcs, hread, depth]
          simp only [Nat.add_le_add_iff_right]
          split <;> rfl

/-- An object is read back when the values of its members are. -/
theorem readsBack_object {fields : Object} (hwhole : ∀ m ∈ fields.toList, m.2.isWhole = true)
    (hback : ∀ room, ∀ m ∈ fields.toList, ReadsBack room m.2) (room : Nat) :
    ReadsBack room (.object fields) := by
  intro rest _
  cases fields with
  | nil => cases room <;> rfl
  | cons key above value fields =>
      cases room with
      | zero => rfl
      | succ room =>
          obtain ⟨hvalue, hfields⟩ := List.forall_mem_cons.mp hwhole
          obtain ⟨hvalueBack, hfieldsBack⟩ := List.forall_mem_cons.mp (hback room)
          have hsteps : fields.toList.length <
              (writeString key (':' :: value.write (fields.write ('\x7d' :: rest)))).length := by
            have hvalue := length_le_write value (fields.write ('\x7d' :: rest))
            have hfields := fields.length_le_write ('\x7d' :: rest)
            simp only [writeString, List.length_cons, List.length_append] at hfields ⊢
            omega
          have hread := readMembers_write fields (fun m hm => ⟨hfields m hm, hfieldsBack m hm⟩)
            key .nil rest hvalue hvalueBack hsteps
          -- the members are put in again in their order, which gives the object
          have hall := (Fields.cons key above value fields).ofList_toList
          rw [Fields.ofList, Fields.toList_cons] at hall
          rw [hall] at hread
          rw [write, writeString, readValue_object, ← writeString, hread, depth, Fields.depth]
          simp only [Nat.add_le_add_iff_right]
          split <;> rfl

/-- A whole value is read back, whatever the room. -/
theorem readsBack_of_isWhole {v : Json} (h : v.isWhole = true) (room : Nat) :
    ReadsBack room v := by
  induction v using value_induction generalizing room with
  | null => intro rest _; simp [write, readValue, depth]
  | bool b => intro rest _; cases b <;> simp [write, readValue, depth]
  | string text =>
      intro rest _
      simp [write, writeString, readValue, readString_flatMap_escape, depth]
  | number n =>
      intro rest hrest
      cases n with
      | integer i fits =>
          obtain ⟨c, cs, hcs, hc⟩ := exists_write_integer i fits rest
          rw [write, hcs, readValue_number hc, ← hcs, readNumber_write hrest]
          simp [depth]
      | double x finite => cases h
  | array items ih =>
      have hwhole := areWhole_iff.mp h
      exact readsBack_array hwhole (fun room v hv => ih v hv (hwhole v hv) room) room
  | object fields ih =>
      have hwhole := fields.areWhole_iff.mp h
      exact readsBack_object hwhole (fun room m hm => ih m hm (hwhole m hm) room) room

/-- A whole value is read from its own text unless it nests too deeply. -/
theorem read?_text {v : Json} (h : v.isWhole = true) :
    read? v.text = if v.depth ≤ maxDepth then some v else none := by
  have hread := readsBack_of_isWhole h maxDepth [] endsNumber_nil
  rw [read?, text, String.toList_ofList, skipBlanks_write h, hread]
  by_cases hdepth : v.depth ≤ maxDepth
  · simp only [if_pos hdepth]
    rfl
  · simp only [if_neg hdepth]

end RunRadar.Json
