import RunRadar.Proofs.Pattern.Sweep

/-!
# RunRadar.Proofs.Pattern.Spaced

Repetitions of **characters that may be spaced**: one of a set `digits`, then perhaps one of a set
`gaps` that has none of them. Where such a character can follow, it follows in one way only, so the
places behind one, two and more of them are known (`Place.further`), and a greedy repetition finds
these, the last one first (`mem_ends_spacedRun_iff`, `recede_ends_spacedRun`).

A repetition also finds the places where a gap has not been taken. Nothing follows there, so they
count for nothing, and neither does it matter which of them the course has seen before.
-/

namespace RunRadar.Pattern

open Text (Ranges)

/-! ### Places -/

namespace Place

/-- Places with different keys all stay. -/
theorem distinctFrom_eq_self {places : List Place} (h : (places.map key).Nodup) :
    ∀ seen : Std.HashSet Key, (∀ p ∈ places, seen.contains p.key = false) →
      distinctFrom seen places = places := by
  induction places with
  | nil => exact fun _ _ => rfl
  | cons p places ih =>
      intro seen hseen
      obtain ⟨hp, hplaces⟩ := List.forall_mem_cons.mp hseen
      rw [List.map_cons, List.nodup_cons] at h
      obtain ⟨hnew, hdistinct⟩ := h
      rw [distinctFrom, hp, if_neg Bool.false_ne_true, ih hdistinct]
      intro q hq
      have hne : p.key ≠ q.key := fun hkey => hnew (hkey ▸ List.mem_map_of_mem hq)
      rw [Std.HashSet.contains_insert, hplaces q hq, Bool.or_false]
      simpa using hne

theorem Recede.distinct {places : List Place} (h : Recede places) : distinct places = places := by
  have hkeys : (places.map key).Nodup := by
    refine List.pairwise_map.mpr (h.imp fun hlt hkey => ?_)
    exact absurd (congrArg Prod.fst hkey) (Nat.ne_of_gt hlt)
  match places with
  | [] | [_] => rfl
  | _ :: _ :: _ => exact distinctFrom_eq_self hkeys ∅ (by simp)

theorem step?_eq_some_iff {set : Ranges} {p q : Place} :
    p.step? set = some q ↔ ∃ c rest, p.rest = c :: rest ∧ set.contains c.toNat = true ∧
      q = ⟨some c, rest, p.offset + 1, []⟩ := by
  unfold step?
  split
  · next hrest => simp [hrest]
  · next c rest hrest =>
      rw [hrest]
      constructor
      · intro h
        split at h
        · next hset => exact ⟨c, rest, rfl, hset, (Option.some.inj h).symm⟩
        · cases h
      · rintro ⟨c', rest', hcons, hset, rfl⟩
        cases hcons
        rw [if_pos hset]

theorem offset_of_step? {set : Ranges} {p q : Place} (h : p.step? set = some q) :
    q.offset = p.offset + 1 := by
  obtain ⟨c, rest, -, -, rfl⟩ := step?_eq_some_iff.mp h
  rfl

theorem entered_of_step? {set : Ranges} {p q : Place} (h : p.step? set = some q) :
    q.entered = [] := by
  obtain ⟨c, rest, -, -, rfl⟩ := step?_eq_some_iff.mp h
  rfl

/-- Taking a character from each place keeps the order. -/
theorem Recede.filterMap_step? {set : Ranges} {places : List Place} (h : Recede places) :
    Recede (places.filterMap (step? set)) := by
  refine List.pairwise_filterMap.mpr (h.imp fun {p q} hlt p' hp' q' hq' => ?_)
  rw [offset_of_step? hp', offset_of_step? hq']
  omega

/-- The place with one more choice entered. -/
def entering (choice : List Nat) (p : Place) : Place := { p with entered := choice :: p.entered }

@[simp] theorem step?_entering (set : Ranges) (choice : List Nat) (p : Place) :
    (p.entering choice).step? set = p.step? set := rfl

@[simp] theorem offset_entering (choice : List Nat) (p : Place) :
    (p.entering choice).offset = p.offset := rfl

theorem enter?_of_not_mem {choice : List Nat} {p : Place} (h : choice ∉ p.entered) :
    p.enter? choice = some (p.entering choice) := by
  simp [enter?, entering, h]

end Place

/-! ### Courses -/

namespace Course

@[simp] theorem ends_empty : ({} : Course).ends = [] := rfl

@[simp] theorem ends_find (course : Course) (p : Place) :
    (course.find p).ends = course.ends ++ [p] := by
  simp [find, ends]

@[simp] theorem ends_look (course : Course) (k : Nat) (p : Place) :
    (course.look k p).ends = course.ends := rfl

theorem ends_foldl_find (course : Course) (places : List Place) :
    (places.foldl find course).ends = course.ends ++ places := by
  induction places generalizing course with
  | nil => simp
  | cons p places ih => rw [List.foldl_cons, ih, ends_find, List.append_assoc]; rfl

/-- Whether a course has not looked at iterations from the `k`-th one on. -/
def IsNewFrom (k : Nat) (course : Course) : Prop :=
  ∀ j i, k ≤ j → course.seen.contains (j, i) = false

theorem isNewFrom_empty (k : Nat) : IsNewFrom k {} := by
  intro j i _
  simp

theorem IsNewFrom.look {k : Nat} {course : Course} (h : course.IsNewFrom k) (p : Place) :
    (course.look k p).IsNewFrom (k + 1) := by
  intro j i hj
  have hne : (k, p.offset) ≠ (j, i) := fun heq => absurd (congrArg Prod.fst heq) (by omega)
  rw [Course.look, Std.HashSet.contains_insert, h j i (by omega), Bool.or_false]
  simpa using hne

end Course

/-- From no places nothing is reached. -/
theorem ends_nil (pattern : Pattern) (path : List Nat) : pattern.ends path [] = [] := by
  have hcopies : ∀ (body : Nat → List Place → List Place) (count k : Nat),
      copies body count k [] = [] := by
    intro body count k
    cases count <;> rfl
  induction pattern generalizing path with
  | empty => rfl
  | chars set => rfl
  | look test => rfl
  | seq first second ihf ihs => rw [ends, ihf, ihs]
  | alt first second => rfl
  | times min max greedy body =>
      cases max with
      | some max => rw [ends, hcopies]; rfl
      | none =>
          cases min with
          | zero => rfl
          | succ least => rw [ends]; simp only [hcopies]; rfl

/-- One character that may be missing is taken if it is there, and otherwise is not. -/
theorem ends_optional {set : Ranges} {path : List Nat} {p : Place}
    (h : 1 :: 0 :: path ∉ p.entered) :
    ends (.times 0 (some 1) true (.chars set)) path [p] =
      (p.step? set).toList ++ [p.entering (1 :: 0 :: path)] := by
  have hrecede : Place.Recede ((p.step? set).toList ++ [p.entering (1 :: 0 :: path)]) := by
    cases hstep : p.step? set with
    | none => simp [Place.Recede]
    | some q => simp [Place.Recede, Place.offset_of_step? hstep]
  have hchars : ends (.chars set) (0 :: 0 :: path) [p.entering (1 :: 0 :: path)] =
      (p.step? set).toList := by
    rw [ends]
    cases hstep : p.step? set <;> simp [hstep, Place.distinct]
  have hcourse : (iterations (fun k q => ends (.chars set) (0 :: k :: path) [q])
      (fun k => 1 :: k :: path) true false 1 0 {} p).ends =
        (p.step? set).toList ++ [p.entering (1 :: 0 :: path)] := by
    rw [iterations, Course.isNewFrom_empty 0 0 p.offset (Nat.le_refl 0), if_neg Bool.false_ne_true,
      Place.enter?_of_not_mem h]
    dsimp only
    rw [if_pos rfl, Course.ends_find, hchars]
    exact congrArg (· ++ _) (Course.ends_foldl_find _ _)
  rw [ends]
  exact (congrArg Place.distinct hcourse).trans hrecede.distinct

/-! ### Spaced characters -/

/-- A character of `digits`, and perhaps one of `gaps` behind it. -/
def spaced (digits gaps : Ranges) : Pattern :=
  .seq (.chars digits) (.times 0 (some 1) true (.chars gaps))

section Spaced

variable {digits gaps : Ranges}

/-- The place behind a gap, at a place where there is one. -/
def Place.behindGap (gaps : Ranges) (p : Place) : Place := (p.step? gaps).getD p

/-- The place behind so many more characters, for a place behind a character. -/
def Place.further (digits gaps : Ranges) : Nat → Place → Option Place
  | 0, p => some p
  | n + 1, p => ((p.behindGap gaps).step? digits).bind (further digits gaps n)

theorem Place.further_add (m n : Nat) (p : Place) :
    p.further digits gaps (m + n) = (p.further digits gaps m).bind (further digits gaps n) := by
  induction m generalizing p with
  | zero => rw [Nat.zero_add, further, Option.bind_some]
  | succ m ih =>
      rw [Nat.succ_add, further, further, Option.bind_assoc]
      exact congrArg _ (funext ih)

/-- The places behind a character: behind the gap, if there is one, and in front of it. -/
def Place.around (gaps : Ranges) (path : List Nat) (p : Place) : List Place :=
  (p.step? gaps).toList ++ [p.entering (1 :: 0 :: 1 :: path)]

/-- Where a spaced character can stop, if it can start at one of the places only. -/
theorem ends_spaced {path : List Nat} {places : List Place} {next : Option Place}
    (h : places.filterMap (Place.step? digits) = next.toList) :
    ends (spaced digits gaps) path places = (next.map (Place.around gaps path)).getD [] := by
  rw [spaced, ends, ends, h]
  cases next with
  | none => exact ends_nil _ _
  | some q =>
      have hentered : q.entered = [] := by
        have hq : q ∈ places.filterMap (Place.step? digits) := by simp [h]
        obtain ⟨p, -, hp⟩ := List.mem_filterMap.mp hq
        exact Place.entered_of_step? hp
      exact ends_optional (by simp [hentered])

theorem Place.entered_of_further {n : Nat} {p q : Place} (hp : p.entered = [])
    (h : p.further digits gaps n = some q) : q.entered = [] := by
  induction n generalizing p with
  | zero => exact Option.some.inj h ▸ hp
  | succ n ih =>
      obtain ⟨r, hr, hq⟩ := Option.bind_eq_some_iff.mp h
      exact ih (Place.entered_of_step? hr) hq

/-! ### Greedy repetitions -/

/-- What a repetition finds from some place on: places from right to left, none of them before
the `start`, from which a character leads to the `targets` and nowhere else. -/
structure Finds (digits : Ranges) (found : List Place) (start : Nat) (targets : Place → Prop) :
    Prop where
  recede : Place.Recede found
  start_le : ∀ p ∈ found, start ≤ p.offset
  leads : ∀ q, (∃ p ∈ found, p.step? digits = some q) ↔ targets q

theorem Finds.append {left right : List Place} {start start' : Nat}
    {targets targets' : Place → Prop} (h : Finds digits left start targets)
    (h' : Finds digits right start' targets') (hlt : ∀ p ∈ right, p.offset < start)
    (hle : start' ≤ start) :
    Finds digits (left ++ right) start' fun q => targets q ∨ targets' q where
  recede := by
    refine List.pairwise_append.mpr ⟨h.recede, h'.recede, fun p hp q hq => ?_⟩
    have hstart := h.start_le p hp
    have hright := hlt q hq
    omega
  start_le := by
    intro p hp
    rcases List.mem_append.mp hp with hp | hp
    · exact Nat.le_trans hle (h.start_le p hp)
    · exact h'.start_le p hp
  leads := by
    intro q
    rw [← h.leads q, ← h'.leads q]
    simp only [List.mem_append, or_and_right, exists_or]

theorem finds_singleton (p : Place) :
    Finds digits [p] p.offset fun q => p.step? digits = some q where
  recede := List.pairwise_singleton _ _
  start_le := by simp
  leads := by simp

/-- The iterations of a greedy repetition of spaced characters. -/
def greedy (digits gaps : Ranges) (path : List Nat) : (room k : Nat) → Course → Place → Course :=
  iterations (fun k p => ends (spaced digits gaps) (0 :: k :: path) [p]) (fun k => 1 :: k :: path)
    true false

variable {path : List Nat}

/-- An iteration is left out where the repetition has been. -/
theorem greedy_succ (room k : Nat) (course : Course) (p : Place) :
    greedy digits gaps path (room + 1) k course p =
      if course.seen.contains (k, p.offset) || p.entered.contains (1 :: k :: path) then course
      else
        ((((p.step? digits).map (Place.around gaps (0 :: k :: path))).getD []).foldl
          (greedy digits gaps path room (k + 1))
          (course.look k (p.entering (1 :: k :: path)))).find (p.entering (1 :: k :: path)) := by
  have hbody : ends (spaced digits gaps) (0 :: k :: path) [p.entering (1 :: k :: path)] =
      ((p.step? digits).map (Place.around gaps (0 :: k :: path))).getD [] := by
    refine ends_spaced ?_
    cases hstep : p.step? digits <;> simp [hstep]
  rw [greedy, iterations, ← hbody]
  by_cases hseen : course.seen.contains (k, p.offset) = true
  · simp only [hseen, if_true, Bool.true_or]
  · by_cases hentered : p.entered.contains (1 :: k :: path) = true
    · simp only [hseen, hentered, Place.enter?, if_true, Bool.or_true, Bool.false_eq_true, if_false]
    · simp only [hseen, hentered, Place.enter?, Place.entering, if_true, Bool.or_false,
        Bool.false_eq_true, if_false]

variable (gaps path) in
/-- From a place without a way on a repetition finds that place at most. -/
theorem exists_greedy_of_dead (room k : Nat) (course : Course) {p : Place}
    (h : p.step? digits = none) :
    ∃ found, (greedy digits gaps path room k course p).ends = course.ends ++ found ∧
      Finds digits found p.offset (fun _ => False) ∧ ∀ q ∈ found, q.offset = p.offset := by
  have hself (q : Place) (hstep : q.step? digits = none) (hq : q.offset = p.offset) :
      Finds digits [q] p.offset fun _ => False := by
    have hfinds : Finds digits [q] q.offset _ := finds_singleton q
    simpa only [hstep, hq, reduceCtorEq] using hfinds
  cases room with
  | zero => exact ⟨[p], by simp [greedy, iterations], hself p h rfl, by simp⟩
  | succ room =>
      rw [greedy_succ]
      split
      · exact ⟨[], by simp, ⟨.nil, by simp, by simp⟩, by simp⟩
      · exact ⟨[p.entering (1 :: k :: path)], by simp [h], hself (p.entering _) h rfl, by simp⟩

/-! ### Gaps that none of the characters are -/

section Apart

variable (hapart : ∀ c, gaps.contains c = true → digits.contains c = false)
include hapart

/-- In front of a gap there is no way on. -/
theorem Place.step?_of_gap {p q : Place} (h : p.step? gaps = some q) : p.step? digits = none := by
  obtain ⟨c, rest, hrest, hgap, -⟩ := step?_eq_some_iff.mp h
  rw [step?, hrest]
  dsimp only
  rw [hapart _ hgap, if_neg Bool.false_ne_true]

/-- Behind a character there is one way on at most. -/
theorem Place.filterMap_around (path : List Nat) (p : Place) :
    (p.around gaps path).filterMap (step? digits) = ((p.behindGap gaps).step? digits).toList := by
  rw [around, behindGap]
  cases hgap : p.step? gaps with
  | none => cases hstep : p.step? digits <;> simp [hstep]
  | some q => cases hstep : q.step? digits <;> simp [hstep, step?_of_gap hapart hgap]

/-- Where exactly so many spaced characters can stop. -/
theorem copies_spaced {path : List Nat} (n : Nat) {k : Nat} {places : List Place}
    {next : Option Place} (h : places.filterMap (Place.step? digits) = next.toList) :
    copies (fun k => ends (spaced digits gaps) (0 :: k :: path)) (n + 1) k places =
      ((next.bind (Place.further digits gaps n)).map
        (Place.around gaps (0 :: (k + n) :: path))).getD [] := by
  induction n generalizing k places next with
  | zero =>
      rw [copies, copies, ends_spaced h]
      cases places with
      | nil => cases next with
        | none => rfl
        | some q => cases h
      | cons p places => cases next <;> rfl
  | succ n ih =>
      have hnext : (ends (spaced digits gaps) (0 :: k :: path) places).filterMap
          (Place.step? digits) =
            (next.bind fun q => (q.behindGap gaps).step? digits).toList := by
        rw [ends_spaced h]
        cases next with
        | none => rfl
        | some q => exact Place.filterMap_around hapart _ q
      rw [copies]
      split
      · next hempty =>
          rw [List.isEmpty_iff] at hempty
          subst hempty
          cases next with
          | none => rfl
          | some q => cases h
      · rw [ih hnext, Option.bind_assoc, Nat.succ_add, Nat.add_succ]
        rfl

/-- Around a place behind a character the way leads on through the gap, if there is one. -/
theorem exists_foldl_around (room : Nat) {k : Nat}
    (ih : ∀ {course : Course} {p : Place}, course.IsNewFrom k → (∀ j, 1 :: j :: path ∉ p.entered) →
      ∃ found, (greedy digits gaps path room k course p).ends = course.ends ++ found ∧
        Finds digits found p.offset fun q =>
          ∃ j ≤ room, (p.step? digits).bind (Place.further digits gaps j) = some q)
    {course : Course} (hnew : course.IsNewFrom k) {p : Place} (hp : p.entered = []) (i : Nat) :
    ∃ found, ((p.around gaps (0 :: i :: path)).foldl (greedy digits gaps path room k)
        course).ends = course.ends ++ found ∧
      Finds digits found p.offset fun q =>
        ∃ j ≤ room, p.further digits gaps (j + 1) = some q := by
  rw [Place.around]
  cases hgap : p.step? gaps with
  | none =>
      have hfree : ∀ j, 1 :: j :: path ∉ (p.entering (1 :: 0 :: 1 :: 0 :: i :: path)).entered := by
        intro j hmem
        rw [Place.entering, hp, List.mem_singleton] at hmem
        have hlength := congrArg List.length hmem
        simp only [List.length_cons] at hlength
        omega
      obtain ⟨found, hends, hfinds⟩ := ih hnew hfree
      refine ⟨found, hends, ?_⟩
      simpa only [Place.further, Place.behindGap, hgap, Option.getD_none, Place.offset_entering,
        Place.step?_entering] using hfinds
  | some q =>
      have hq := Place.entered_of_step? hgap
      have hoffset := Place.offset_of_step? hgap
      obtain ⟨found, hends, hfinds⟩ := ih hnew (p := q) (by simp [hq])
      -- the place in front of the gap comes second, and there is no way on
      have hdead : (p.entering (1 :: 0 :: 1 :: 0 :: i :: path)).step? digits = none :=
        Place.step?_of_gap hapart hgap
      obtain ⟨dead, hdeadEnds, hdeadFinds, hdeadOffset⟩ := exists_greedy_of_dead
        gaps path room k (greedy digits gaps path room k course q) hdead
      have hall := hfinds.append hdeadFinds
        (fun a ha => by have := hdeadOffset a ha; simp only [Place.offset_entering] at this; omega)
        (by simp only [Place.offset_entering]; omega)
      refine ⟨found ++ dead, ?_, ?_⟩
      · rw [Option.toList_some, List.singleton_append, List.foldl_cons, List.foldl_cons,
          List.foldl_nil, hdeadEnds, hends, List.append_assoc]
      · simpa only [Place.further, Place.behindGap, hgap, Option.getD_some, or_false,
          Place.offset_entering] using hall

/-- A greedy repetition finds the places behind all further characters that it has room for, and
first the place where it starts. -/
theorem exists_greedy {room k : Nat} {course : Course} {p : Place} (hnew : course.IsNewFrom k)
    (hfree : ∀ j, 1 :: j :: path ∉ p.entered) :
    ∃ found, (greedy digits gaps path room k course p).ends = course.ends ++ found ∧
      Finds digits found p.offset fun q =>
        ∃ j ≤ room, (p.step? digits).bind (Place.further digits gaps j) = some q := by
  induction room generalizing k course p with
  | zero =>
      refine ⟨[p], by simp [greedy, iterations], ?_⟩
      have hfinds : Finds digits [p] p.offset _ := finds_singleton p
      simpa [Place.further] using hfinds
  | succ room ih =>
      have hunseen : ¬(course.seen.contains (k, p.offset) ||
          p.entered.contains (1 :: k :: path)) = true := by
        simp [hnew k p.offset (Nat.le_refl k), hfree k]
      rw [greedy_succ, if_neg hunseen]
      have hself : Finds digits [p.entering (1 :: k :: path)] p.offset _ := finds_singleton _
      cases hstep : p.step? digits with
      | none =>
          refine ⟨[p.entering (1 :: k :: path)], by simp, ?_⟩
          simpa [hstep] using hself
      | some q =>
          have hq := Place.entered_of_step? hstep
          have hoffset := Place.offset_of_step? hstep
          obtain ⟨found, hends, hfinds⟩ := exists_foldl_around hapart room ih
            (hnew.look (p.entering (1 :: k :: path))) hq k
          have hall := hfinds.append hself (by simp; omega) (by omega)
          refine ⟨found ++ [p.entering (1 :: k :: path)], ?_, ?_⟩
          · rw [Option.map_some, Option.getD_some, Course.ends_find, hends, Course.ends_look,
              List.append_assoc]
          · refine ⟨hall.recede, hall.start_le, fun b => (hall.leads b).trans ?_⟩
            simp only [Option.bind_some, Place.step?_entering, hstep, Option.some.injEq]
            constructor
            · rintro (⟨j, hj, hb⟩ | rfl)
              · exact ⟨j + 1, by omega, hb⟩
              · exact ⟨0, by omega, rfl⟩
            · rintro ⟨j, hj, hb⟩
              cases j with
              | zero => exact .inr (Option.some.inj hb)
              | succ j => exact .inl ⟨j, by omega, hb⟩

/-! ### Runs of spaced characters -/

/-- A repetition stops where another character can follow the ones that it has taken. -/
theorem finds_ends_times (path : List Nat) {least max : Nat} (hmax : least < max) (p : Place) :
    Finds digits (ends (.times (least + 1) (some max) true (spaced digits gaps)) path [p]) 0
      fun q => ∃ j, least < j ∧ j ≤ max ∧
        (p.step? digits).bind (Place.further digits gaps j) = some q := by
  have hends : ends (.times (least + 1) (some max) true (spaced digits gaps)) path [p] =
      Place.distinct ((copies (fun k => ends (spaced digits gaps) (0 :: k :: path)) (least + 1) 0
        [p]).foldl (greedy digits gaps path (max - (least + 1)) (least + 1)) {}).ends := rfl
  have hstart : [p].filterMap (Place.step? digits) = (p.step? digits).toList := by
    cases hstep : p.step? digits <;> simp [hstep]
  have hsplit (i : Nat) : (p.step? digits).bind (Place.further digits gaps (least + i)) =
      ((p.step? digits).bind (Place.further digits gaps least)).bind
        (Place.further digits gaps i) := by
    rw [Option.bind_assoc]
    exact congrArg _ (funext (Place.further_add least i))
  rw [hends, copies_spaced hapart least hstart]
  cases hreach : (p.step? digits).bind (Place.further digits gaps least) with
  | none =>
      refine ⟨.nil, by simp [Place.distinct], fun q => ?_⟩
      simp only [Option.map_none, Option.getD_none, List.foldl_nil, Course.ends_empty,
        Place.distinct, List.not_mem_nil, false_and, exists_false, false_iff]
      rintro ⟨j, hj, -, hq⟩
      obtain ⟨i, rfl⟩ := Nat.exists_eq_add_of_lt hj
      rw [Nat.add_assoc, hsplit, hreach] at hq
      cases hq
  | some r =>
      have hr : r.entered = [] := by
        obtain ⟨q, hq, hfurther⟩ := Option.bind_eq_some_iff.mp hreach
        exact Place.entered_of_further (Place.entered_of_step? hq) hfurther
      obtain ⟨found, hfound, hfinds⟩ := exists_foldl_around hapart (max - (least + 1))
        (fun hnew hfree => exists_greedy hapart hnew hfree)
        (Course.isNewFrom_empty (least + 1)) hr (0 + least)
      rw [Option.map_some, Option.getD_some, hfound, Course.ends_empty, List.nil_append,
        hfinds.recede.distinct]
      refine ⟨hfinds.recede, fun b _ => Nat.zero_le _, fun b => (hfinds.leads b).trans ?_⟩
      constructor
      · rintro ⟨j, hj, hb⟩
        refine ⟨least + (j + 1), by omega, by omega, ?_⟩
        rw [hsplit, hreach, Option.bind_some, hb]
      · rintro ⟨j, hleast, hj, hb⟩
        obtain ⟨i, rfl⟩ := Nat.exists_eq_add_of_lt hleast
        rw [Nat.add_assoc, hsplit, hreach, Option.bind_some] at hb
        exact ⟨i, by omega, hb⟩

/-- More than one spaced character, between two places where a test holds. -/
def spacedRun (test : Look) (digits gaps : Ranges) (least max : Nat) : Pattern :=
  .all [.look test, .times (least + 1) (some max) true (spaced digits gaps), .chars digits,
    .look test]

theorem ends_spacedRun (test : Look) {least max : Nat} (hmax : least < max) (path : List Nat)
    (p : Place) :
    ends (spacedRun test digits gaps least max) path [p] =
      if test.holds p then
        ((ends (.times (least + 1) (some max) true (spaced digits gaps)) (0 :: 1 :: path)
          [p]).filterMap (Place.step? digits)).filter test.holds
      else [] := by
  have hends : ends (spacedRun test digits gaps least max) path [p] =
      (Place.distinct ((ends (.times (least + 1) (some max) true (spaced digits gaps))
        (0 :: 1 :: path) ([p].filter test.holds)).filterMap (Place.step? digits))).filter
          test.holds := rfl
  rw [hends, List.filter_singleton]
  cases test.holds p with
  | false => rw [cond_false, ends_nil]; rfl
  | true =>
      have hrecede := (finds_ends_times hapart (0 :: 1 :: path) hmax p).recede
      rw [cond_true, if_pos rfl, hrecede.filterMap_step?.distinct]

/-- A run of spaced characters prefers to be long. -/
theorem recede_ends_spacedRun (test : Look) {least max : Nat} (hmax : least < max)
    (path : List Nat) (p : Place) :
    Place.Recede (ends (spacedRun test digits gaps least max) path [p]) := by
  rw [ends_spacedRun hapart test hmax]
  split
  · exact (finds_ends_times hapart _ hmax p).recede.filterMap_step?.filter _
  · exact .nil

/-- Where a run of spaced characters can stop. -/
theorem mem_ends_spacedRun_iff {test : Look} {least max : Nat} (hmax : least < max)
    {path : List Nat} {p b : Place} :
    b ∈ ends (spacedRun test digits gaps least max) path [p] ↔
      test.holds p = true ∧ test.holds b = true ∧ ∃ j, least < j ∧ j ≤ max ∧
        (p.step? digits).bind (Place.further digits gaps j) = some b := by
  rw [ends_spacedRun hapart test hmax,
    ← (finds_ends_times hapart (0 :: 1 :: path) hmax p).leads b]
  split
  · next hp => simp only [List.mem_filter, List.mem_filterMap, hp, true_and, and_comm]
  · next hp => simp only [hp, List.not_mem_nil, false_and, Bool.false_eq_true]

end Apart

end Spaced

end RunRadar.Pattern
