import RunRadar.Proofs.Pattern.Spaced

/-!
# RunRadar.Proofs.Pattern.Row

**Rows** of characters with single gaps, in the terms of texts. A run of spaced characters takes the
rows of its length that stand apart from words (`takes_spacedRun`), provided that its characters
belong to words and its gaps do not.
-/

namespace RunRadar.Pattern

open Text (Ranges)

/-! ### Rows -/

/-- So many characters of one kind in a row, each with a gap behind it or none, but for the last. -/
inductive Row (digit gap : Char → Bool) : Nat → List Char → Prop
  | last {c : Char} (hdigit : digit c = true) : Row digit gap 1 [c]
  | next {n : Nat} {c : Char} {part : List Char} (hdigit : digit c = true)
      (further : Row digit gap n part) : Row digit gap (n + 1) (c :: part)
  | gap {n : Nat} {c g : Char} {part : List Char} (hdigit : digit c = true) (hgap : gap g = true)
      (further : Row digit gap n part) : Row digit gap (n + 1) (c :: g :: part)

/-- Whether so many characters stand in a row. -/
def isRow (digit gap : Char → Bool) : Nat → List Char → Bool
  | 0, _ => false
  | _ + 1, [] => false
  | n + 1, [c] => n = 0 && digit c
  | n + 1, c :: d :: part =>
    digit c && (isRow digit gap n (d :: part) || gap d && isRow digit gap n part)

namespace Row

variable {digit gap : Char → Bool} {n : Nat} {part : List Char}

theorem mono {digit' gap' : Char → Bool} (h : Row digit gap n part)
    (hdigit : ∀ c, digit c = true → digit' c = true) (hgap : ∀ c, gap c = true → gap' c = true) :
    Row digit' gap' n part := by
  induction h with
  | last hc => exact .last (hdigit _ hc)
  | next hc _ ih => exact .next (hdigit _ hc) ih
  | gap hc hg _ ih => exact .gap (hdigit _ hc) (hgap _ hg) ih

theorem count_pos (h : Row digit gap n part) : 0 < n := by
  cases h <;> exact Nat.succ_pos _

theorem not_nil : ¬Row digit gap n [] := nofun

/-- A row is a last digit, or a digit with a row behind it or behind the gap that follows. -/
theorem cons_iff {c : Char} : Row digit gap (n + 1) (c :: part) ↔ digit c = true ∧
    (n = 0 ∧ part = [] ∨ Row digit gap n part ∨
      ∃ g rest, part = g :: rest ∧ gap g = true ∧ Row digit gap n rest) := by
  constructor
  · intro h
    cases h with
    | last hdigit => exact ⟨hdigit, .inl ⟨rfl, rfl⟩⟩
    | next hdigit further => exact ⟨hdigit, .inr (.inl further)⟩
    | gap hdigit hgap further => exact ⟨hdigit, .inr (.inr ⟨_, _, rfl, hgap, further⟩)⟩
  · rintro ⟨hdigit, ⟨rfl, rfl⟩ | further | ⟨g, rest, rfl, hgap, further⟩⟩
    · exact .last hdigit
    · exact .next hdigit further
    · exact .gap hdigit hgap further

theorem isRow_iff : isRow digit gap n part = true ↔ Row digit gap n part := by
  induction n, part using isRow.induct with
  | case1 part => exact ⟨nofun, fun h => absurd h.count_pos (Nat.lt_irrefl 0)⟩
  | case2 n => exact ⟨nofun, fun h => absurd h not_nil⟩
  | case3 n c => simp [isRow, cons_iff, not_nil, and_comm]
  | case4 n c d part ih ih' => simp [isRow, cons_iff, ih, ih']

instance : Decidable (Row digit gap n part) := decidable_of_iff _ isRow_iff

theorem exists_cons (h : Row digit gap n part) :
    ∃ c rest, part = c :: rest ∧ digit c = true := by
  cases h with
  | last hdigit => exact ⟨_, _, rfl, hdigit⟩
  | next hdigit _ => exact ⟨_, _, rfl, hdigit⟩
  | gap hdigit _ _ => exact ⟨_, _, rfl, hdigit⟩

theorem exists_concat (h : Row digit gap n part) :
    ∃ init c, part = init ++ [c] ∧ digit c = true := by
  induction h with
  | last hdigit => exact ⟨[], _, rfl, hdigit⟩
  | next _ _ ih =>
      obtain ⟨init, c, rfl, hc⟩ := ih
      exact ⟨_ :: init, c, rfl, hc⟩
  | gap _ _ _ ih =>
      obtain ⟨init, c, rfl, hc⟩ := ih
      exact ⟨_ :: _ :: init, c, rfl, hc⟩

/-- Two rows beside each other, the gap between them, if there is one, being on either side. -/
inductive Beside (digit gap : Char → Bool) : (left right : List Char) → Prop
  | close {i j : Nat} {left right : List Char} (hleft : Row digit gap i left)
      (hright : Row digit gap j right) : Beside digit gap left right
  | gapLeft {i j : Nat} {left right : List Char} {g : Char} (hleft : Row digit gap i left)
      (hgap : gap g = true) (hright : Row digit gap j right) : Beside digit gap (left ++ [g]) right
  | gapRight {i j : Nat} {left right : List Char} {g : Char} (hleft : Row digit gap i left)
      (hgap : gap g = true) (hright : Row digit gap j right) : Beside digit gap left (g :: right)

theorem Beside.prepend {left right : List Char} (h : Beside digit gap left right)
    (start : List Char)
    (hstart : ∀ {n part}, Row digit gap n part → Row digit gap (n + 1) (start ++ part)) :
    Beside digit gap (start ++ left) right := by
  cases h with
  | close hleft hright => exact .close (hstart hleft) hright
  | gapLeft hleft hgap hright =>
      rw [← List.append_assoc]
      exact .gapLeft (hstart hleft) hgap hright
  | gapRight hleft hgap hright => exact .gapRight (hstart hleft) hgap hright

/-- A row that is cut in two falls apart into two rows. -/
theorem cut {left right : List Char} (h : Row digit gap n (left ++ right)) (hleft : left ≠ [])
    (hright : right ≠ []) : Beside digit gap left right := by
  generalize hpart : left ++ right = part at h
  induction h generalizing left with
  | last hdigit =>
      obtain ⟨c, left, rfl⟩ := List.exists_cons_of_ne_nil hleft
      obtain ⟨-, hnil⟩ := List.cons.inj hpart
      exact absurd (List.append_eq_nil_iff.mp hnil).2 hright
  | next hdigit further ih =>
      obtain ⟨c, left, rfl⟩ := List.exists_cons_of_ne_nil hleft
      obtain ⟨rfl, rfl⟩ := List.cons.inj hpart
      cases left with
      | nil => exact .close (.last hdigit) further
      | cons d left => exact (ih (List.cons_ne_nil _ _) rfl).prepend [c] (.next hdigit)
  | gap hdigit hgap further ih =>
      obtain ⟨c, left, rfl⟩ := List.exists_cons_of_ne_nil hleft
      obtain ⟨rfl, hrest⟩ := List.cons.inj hpart
      cases left with
      | nil =>
          obtain rfl : right = _ := hrest
          exact .gapRight (.last hdigit) hgap further
      | cons g left =>
          obtain ⟨rfl, rfl⟩ := List.cons.inj hrest
          cases left with
          | nil =>
              show Beside digit gap ([c] ++ [g]) right
              exact .gapLeft (.last hdigit) hgap further
          | cons d left =>
              exact (ih (List.cons_ne_nil _ _) rfl).prepend [c, g] (.gap hdigit hgap)

section Apart

variable (hapart : ∀ c, gap c = true → digit c = false)
include hapart

/-- In a row, a digit stands behind another one or behind a gap that does. -/
theorem before_digit {left right : List Char} {d : Char} (h : Row digit gap n (left ++ d :: right))
    (hleft : left ≠ []) (hd : digit d = true) :
    (∃ init c, left = init ++ [c] ∧ digit c = true) ∨
      ∃ init c g, left = init ++ [c, g] ∧ digit c = true ∧ gap g = true := by
  generalize hright : d :: right = right' at h
  cases h.cut hleft (by simp [← hright]) with
  | close hrow _ => exact .inl hrow.exists_concat
  | gapLeft hrow hgap _ =>
      obtain ⟨init, c, rfl, hc⟩ := hrow.exists_concat
      exact .inr ⟨init, c, _, by simp, hc, hgap⟩
  | gapRight _ hgap _ =>
      obtain ⟨rfl, -⟩ := List.cons.inj hright
      rw [hapart d hgap] at hd
      cases hd

/-- In a row, a digit stands in front of another one or in front of a gap that does. -/
theorem behind_digit {left right : List Char} {d : Char}
    (h : Row digit gap n (left ++ [d] ++ right)) (hright : right ≠ []) (hd : digit d = true) :
    (∃ c rest, right = c :: rest ∧ digit c = true) ∨
      ∃ g c rest, right = g :: c :: rest ∧ gap g = true ∧ digit c = true := by
  generalize hleft : left ++ [d] = left' at h
  cases h.cut (by simp [← hleft]) hright with
  | close _ hrow => exact .inl hrow.exists_cons
  | gapLeft _ hgap _ =>
      obtain ⟨-, rfl⟩ := List.append_inj' hleft rfl |>.imp_right List.singleton_inj.mp
      rw [hapart d hgap] at hd
      cases hd
  | gapRight _ hgap hrow =>
      obtain ⟨c, rest, rfl, hc⟩ := hrow.exists_cons
      exact .inr ⟨_, c, rest, rfl, hgap, hc⟩

end Apart

end Row

/-- Whether a part of a text is a row of at least `least` and at most `most` characters, with no
character of a word directly before or behind it. -/
structure IsRun (digit gap : Char → Bool) (least most : Nat) (before part after : List Char) :
    Prop where
  row : ∃ n, least ≤ n ∧ n ≤ most ∧ Row digit gap n part
  before : before.getLast?.any (isWord true) = false
  after : after.head?.any (isWord true) = false

/-- Whether a gap comes first and a digit behind it. -/
def beyondGap (digit gap : Char → Bool) : List Char → Bool
  | g :: d :: _ => gap g && digit d
  | _ => false

/-- Whether there is no digit near by, neither before nor behind, with a single gap between. -/
structure IsAlone (digit gap : Char → Bool) (before after : List Char) : Prop where
  before : beyondGap digit gap before.reverse = false
  after : beyondGap digit gap after = false

/-- Where a run is alone, no other run hides it. -/
theorem IsRun.not_hides {digit gap : Char → Bool}
    (hword : ∀ c, digit c = true → isWord true c = true)
    (hapart : ∀ c, gap c = true → digit c = false) {least most : Nat}
    {start part after start' part' after' : List Char}
    (hrun : IsRun digit gap least most start part after) (halone : IsAlone digit gap start after)
    (hrun' : IsRun digit gap least most start' part' after')
    (htext : start' ++ part' ++ after' = start ++ part ++ after) :
    ¬Hides start' part' start part := by
  rintro ⟨hle, hlt, hdiffers⟩
  obtain ⟨n, -, -, hrow⟩ := hrun.row
  obtain ⟨m, -, -, hrow'⟩ := hrun'.row
  have hwhole : start <+: start ++ part ++ after := ⟨part ++ after, by simp⟩
  obtain ⟨front, rfl⟩ : start' <+: start := List.prefix_of_prefix_length_le
    ⟨part' ++ after', by rw [← List.append_assoc, htext]⟩ hwhole hle
  rw [List.append_assoc, List.append_assoc, List.append_assoc, List.append_cancel_left_eq] at htext
  rw [List.length_append, Nat.add_lt_add_iff_left] at hlt
  obtain ⟨inside, rfl⟩ : front <+: part' := List.prefix_of_prefix_length_le
    ⟨part ++ after, rfl⟩ ⟨after', htext⟩ (Nat.le_of_lt hlt)
  rw [List.append_assoc, List.append_cancel_left_eq] at htext
  -- the run does not begin in front of the row
  obtain rfl : front = [] := by
    by_contra hfront
    obtain ⟨d, rest, rfl, hd⟩ := hrow.exists_cons
    obtain ⟨c, inside, rfl⟩ : ∃ c inside', inside = c :: inside' :=
      List.exists_cons_of_ne_nil fun hnil => by simp [hnil] at hlt
    obtain ⟨rfl, -⟩ := List.cons.inj htext
    rcases hrow'.before_digit hapart hfront hd with
      ⟨init, e, rfl, he⟩ | ⟨init, e, g, rfl, he, hgap⟩
    · simpa [hword e he] using hrun.before
    · simpa [beyondGap, he, hgap] using halone.before
  -- and does not go on behind it
  rw [List.nil_append] at hrow'
  have hlong : part.length < inside.length := by simpa using hdiffers
  obtain ⟨behind, rfl⟩ : part <+: inside := List.prefix_of_prefix_length_le
    ⟨after, rfl⟩ ⟨after', htext⟩ (Nat.le_of_lt hlong)
  rw [List.append_assoc, List.append_cancel_left_eq] at htext
  have hbehind : behind ≠ [] := fun hnil => by simp [hnil] at hlong
  obtain ⟨init, d, rfl, hd⟩ := hrow.exists_concat
  rcases hrow'.behind_digit hapart hbehind hd with
    ⟨c, rest, rfl, hc⟩ | ⟨g, c, rest, rfl, hgap, hc⟩
  · simpa [← htext, hword c hc] using hrun.after
  · simpa [← htext, beyondGap, hgap, hc] using halone.after

/-! ### Rows and places -/

section

variable {digits gaps : Ranges}

/-- Whether a set has a character. -/
def hasChar (set : Ranges) (c : Char) : Bool := set.contains c.toNat

theorem Place.step?_between_eq_some_iff {set : Ranges} {before rest : List Char} {q : Place} :
    (between before rest).step? set = some q ↔
      ∃ c after, rest = c :: after ∧ hasChar set c = true ∧ q = between (before ++ [c]) after := by
  rw [step?_eq_some_iff]
  simp [between, hasChar]

/-- A gap is skipped. -/
theorem Place.behindGap_between {before rest : List Char} {g : Char}
    (hgap : hasChar gaps g = true) :
    (between before (g :: rest)).behindGap gaps = between (before ++ [g]) rest := by
  rw [behindGap, step?_between_eq_some_iff.mpr ⟨g, rest, rfl, hgap, rfl⟩, Option.getD_some]

/-- What is no gap is not skipped. -/
theorem Place.behindGap_between_of_ne {before rest : List Char}
    (h : ∀ g after, rest = g :: after → hasChar gaps g = false) :
    (between before rest).behindGap gaps = between before rest := by
  rw [behindGap]
  cases hstep : (between before rest).step? gaps with
  | none => rfl
  | some q =>
      obtain ⟨g, after, hrest, hgap, -⟩ := step?_between_eq_some_iff.mp hstep
      rw [h g after hrest] at hgap
      cases hgap

variable (hapart : ∀ c, gaps.contains c = true → digits.contains c = false)
include hapart

/-- So many characters lead to where a row of them ends. -/
theorem Place.further_between_eq_some_iff (n : Nat) {before rest : List Char} {q : Place} :
    ((between before rest).step? digits).bind (further digits gaps n) = some q ↔
      ∃ part after, part ++ after = rest ∧ q = between (before ++ part) after ∧
        Row (hasChar digits) (hasChar gaps) (n + 1) part := by
  induction n generalizing before rest with
  | zero =>
      simp only [Option.bind_eq_some_iff, step?_between_eq_some_iff, further, Option.some.injEq]
      constructor
      · rintro ⟨_, ⟨c, after, rfl, hdigit, rfl⟩, rfl⟩
        exact ⟨[c], after, rfl, rfl, .last hdigit⟩
      · rintro ⟨part, after, rfl, rfl, hrow⟩
        cases hrow with
        | last hdigit => exact ⟨_, ⟨_, _, rfl, hdigit, rfl⟩, rfl⟩
        | next _ further => exact absurd further.count_pos (Nat.lt_irrefl 0)
        | gap _ _ further => exact absurd further.count_pos (Nat.lt_irrefl 0)
  | succ n ih =>
      rw [Option.bind_eq_some_iff]
      simp only [step?_between_eq_some_iff, further]
      constructor
      · rintro ⟨_, ⟨c, rest, rfl, hdigit, rfl⟩, hfurther⟩
        by_cases hgap : ∃ g rest', rest = g :: rest' ∧ hasChar gaps g = true
        · obtain ⟨g, rest, rfl, hgap⟩ := hgap
          rw [behindGap_between hgap, ih] at hfurther
          obtain ⟨part, after, rfl, rfl, hrow⟩ := hfurther
          exact ⟨c :: g :: part, after, rfl, by simp, .gap hdigit hgap hrow⟩
        · rw [behindGap_between_of_ne (by simpa using hgap), ih] at hfurther
          obtain ⟨part, after, rfl, rfl, hrow⟩ := hfurther
          exact ⟨c :: part, after, rfl, by simp, .next hdigit hrow⟩
      · rintro ⟨part, after, rfl, rfl, hrow⟩
        cases hrow with
        | @next _ c part hdigit hrow =>
            refine ⟨_, ⟨c, part ++ after, rfl, hdigit, rfl⟩, ?_⟩
            have hnogap : ∀ g after', part ++ after = g :: after' → hasChar gaps g = false := by
              obtain ⟨d, rest, rfl, hd⟩ := hrow.exists_cons
              rintro g after' hcons
              obtain ⟨rfl, -⟩ := List.cons.inj hcons
              refine Bool.eq_false_iff.mpr fun hgap => ?_
              rw [hasChar, hapart _ hgap] at hd
              cases hd
            rw [behindGap_between_of_ne hnogap, ih]
            exact ⟨part, after, rfl, by simp, hrow⟩
        | @gap _ c g part hdigit hgap hrow =>
            refine ⟨_, ⟨c, g :: (part ++ after), rfl, hdigit, rfl⟩, ?_⟩
            rw [behindGap_between hgap, ih]
            exact ⟨part, after, rfl, by simp, hrow⟩

omit hapart in
/-- Only a digit can start or end a row, so its ends are at word boundaries where no character of a
word stands beside them. -/
theorem Row.boundaries_iff (hword : ∀ c, hasChar digits c = true → isWord true c = true) {n : Nat}
    {before part after : List Char} (h : Row (hasChar digits) (hasChar gaps) n part) :
    (Look.word true .boundary).holds (.between before (part ++ after)) = true ∧
        (Look.word true .boundary).holds (.between (before ++ part) after) = true ↔
      before.getLast?.any (isWord true) = false ∧ after.head?.any (isWord true) = false := by
  obtain ⟨c, rest, hfirst, hc⟩ := h.exists_cons
  obtain ⟨init, d, hlast, hd⟩ := h.exists_concat
  have hstart : (part ++ after).head? = some c := by rw [hfirst]; rfl
  have hend : (before ++ part).getLast? = some d := by simp [hlast]
  simp only [Look.holds, WordTest.holds, Place.between, hstart, hend, Option.any_some,
    hword c hc, hword d hd, bne_iff_ne, ne_eq, Bool.not_eq_true, eq_comm (a := true)]

/-- A run of spaced characters takes the rows of its length that stand apart from words. -/
theorem takes_spacedRun (hword : ∀ c, hasChar digits c = true → isWord true c = true)
    {least max : Nat} (hmax : least < max) :
    (spacedRun (.word true .boundary) digits gaps least max).Takes
      (IsRun (hasChar digits) (hasChar gaps) (least + 2) (max + 1)) where
  ne_nil := by
    rintro before part after ⟨⟨n, -, -, hrow⟩, -, -⟩ rfl
    obtain ⟨c, rest, hcons, -⟩ := hrow.exists_cons
    cases hcons
  needed := by
    rintro before part after ⟨⟨n, -, -, hrow⟩, -, -⟩ set hset
    have hdigits : set = digits := by
      simpa [spacedRun, spaced, all, Pattern.needed] using hset
    obtain ⟨c, rest, rfl, hdigit⟩ := hrow.exists_cons
    rw [hdigits, List.any_cons]
    exact Bool.or_eq_true_iff.mpr (.inl hdigit)
  recede := fun before rest => recede_ends_spacedRun hapart _ hmax _ _
  mem_ends_iff := by
    intro before rest q
    rw [mem_ends_spacedRun_iff hapart hmax]
    simp only [Place.further_between_eq_some_iff hapart]
    constructor
    · rintro ⟨hstart, hend, j, hleast, hj, part, after, rfl, rfl, hrow⟩
      obtain ⟨hbefore, hafter⟩ := (hrow.boundaries_iff hword).mp ⟨hstart, hend⟩
      exact ⟨part, after, rfl, rfl, ⟨j + 1, by omega, by omega, hrow⟩, hbefore, hafter⟩
    · rintro ⟨part, after, rfl, rfl, ⟨n, hleast, hn, hrow⟩, hbefore, hafter⟩
      obtain ⟨hstart, hend⟩ := (hrow.boundaries_iff hword).mpr ⟨hbefore, hafter⟩
      obtain ⟨j, rfl⟩ := Nat.exists_eq_add_of_lt hrow.count_pos
      rw [Nat.zero_add] at hrow
      exact ⟨hstart, hend, j, by omega, by omega, part, after, rfl, rfl, hrow⟩

end

end RunRadar.Pattern
