import Mathlib.Data.List.Infix
import RunRadar.Sql.Condition
import RunRadar.Text.Search

/-!
# RunRadar.Proofs.Sql.Like

**Matching with LIKE**, as PostgreSQL does it unless told otherwise: a percent sign stands for any
characters, an underscore for any one character, a backslash makes the character behind it stand for
itself, and every other character does so anyway. The whole text has to be matched (`Sql.Like`).

The pattern of a search matches the texts that its needle stands in, whatever characters the needle
is made of (`Sql.searches_match_literally`). In the pattern something stands behind the needle, so
the induction over the needle is about escaped characters with any pattern behind them
(`Sql.like_escaped_append_iff`).
-/

namespace RunRadar.Sql

/-! ### What is like a pattern -/

/-- A text is like a pattern. A backslash at the end of a pattern matches nothing. -/
inductive Like : (pattern text : List Char) → Prop
  | nil : Like [] []
  | anything (skipped : List Char) {pattern rest : List Char} (h : Like pattern rest) :
      Like ('%' :: pattern) (skipped ++ rest)
  | anyone (c : Char) {pattern rest : List Char} (h : Like pattern rest) :
      Like ('_' :: pattern) (c :: rest)
  | escaped (c : Char) {pattern rest : List Char} (h : Like pattern rest) :
      Like ('\\' :: c :: pattern) (c :: rest)
  | literal {c : Char} (hc : c ≠ '\\' ∧ c ≠ '%' ∧ c ≠ '_') {pattern rest : List Char}
      (h : Like pattern rest) : Like (c :: pattern) (c :: rest)

theorem like_nil_iff {text : List Char} : Like [] text ↔ text = [] := by
  constructor
  · intro h
    cases h
    rfl
  · rintro rfl
    exact .nil

theorem like_anything_iff {pattern text : List Char} :
    Like ('%' :: pattern) text ↔ ∃ skipped rest, text = skipped ++ rest ∧ Like pattern rest := by
  constructor
  · intro h
    cases h with
    | anything skipped h => exact ⟨skipped, _, rfl, h⟩
    | literal hc _ => exact absurd rfl hc.2.1
  · rintro ⟨skipped, rest, rfl, h⟩
    exact .anything skipped h

theorem like_anyone_iff {pattern text : List Char} :
    Like ('_' :: pattern) text ↔ ∃ c rest, text = c :: rest ∧ Like pattern rest := by
  constructor
  · intro h
    cases h with
    | anyone c h => exact ⟨c, _, rfl, h⟩
    | literal hc _ => exact absurd rfl hc.2.2
  · rintro ⟨c, rest, rfl, h⟩
    exact .anyone c h

theorem like_escaped_iff {c : Char} {pattern text : List Char} :
    Like ('\\' :: c :: pattern) text ↔ ∃ rest, text = c :: rest ∧ Like pattern rest := by
  constructor
  · intro h
    cases h with
    | escaped _ h => exact ⟨_, rfl, h⟩
    | literal hc _ => exact absurd rfl hc.1
  · rintro ⟨rest, rfl, h⟩
    exact .escaped c h

theorem not_like_backslash (text : List Char) : ¬ Like ['\\'] text := by
  intro h
  cases h with
  | literal hc _ => exact hc.1 rfl

theorem like_literal_iff {c : Char} (hc : c ≠ '\\' ∧ c ≠ '%' ∧ c ≠ '_') {pattern text : List Char} :
    Like (c :: pattern) text ↔ ∃ rest, text = c :: rest ∧ Like pattern rest := by
  constructor
  · intro h
    cases h with
    | anything => exact absurd rfl hc.2.1
    | anyone => exact absurd rfl hc.2.2
    | escaped => exact absurd rfl hc.1
    | literal _ h => exact ⟨_, rfl, h⟩
  · rintro ⟨rest, rfl, h⟩
    exact .literal hc h

/-! ### Matching -/

/-- Whether a text is like a pattern. At a percent sign, every way to go on is tried. -/
def matchesLike : (pattern text : List Char) → Bool
  | [], text => text.isEmpty
  | '\\' :: c :: pattern, text => text.head? = some c && matchesLike pattern text.tail
  | c :: pattern, text =>
    if c = '%' then text.tails.any fun rest => matchesLike pattern rest
    else if c = '_' then text ≠ [] && matchesLike pattern text.tail
    else c ≠ '\\' && text.head? = some c && matchesLike pattern text.tail

/-- `matchesLike` decides whether a text is like a pattern. -/
theorem matchesLike_iff {pattern text : List Char} :
    matchesLike pattern text = true ↔ Like pattern text := by
  have hcons : ∀ (c : Char) (text : List Char) (P : List Char → Prop),
      (∃ rest, text = c :: rest ∧ P rest) ↔ text.head? = some c ∧ P text.tail := by
    rintro c (_ | ⟨d, rest⟩) P <;> simp
  fun_induction matchesLike pattern text with
  | case1 text => rw [List.isEmpty_iff, like_nil_iff]
  | case2 c pattern text ih => simp [like_escaped_iff, hcons, ih]
  | case3 pattern text _ ih =>
      simp only [List.any_eq_true, List.mem_tails, ih, like_anything_iff]
      constructor
      · rintro ⟨rest, ⟨skipped, rfl⟩, h⟩
        exact ⟨skipped, rest, rfl, h⟩
      · rintro ⟨skipped, rest, rfl, h⟩
        exact ⟨rest, ⟨skipped, rfl⟩, h⟩
  | case4 pattern text _ _ ih =>
      cases text with
      | nil => simp [like_anyone_iff]
      | cons c rest => simpa [like_anyone_iff] using ih
  | case5 c pattern text hescape hpercent hunderscore ih =>
      by_cases hc : c = '\\'
      · subst hc
        cases pattern with
        | nil => simp [not_like_backslash]
        | cons d pattern => exact absurd rfl (hescape d pattern rfl)
      · simp [like_literal_iff ⟨hc, hpercent, hunderscore⟩, hcons, ih, hc]

instance (pattern text : List Char) : Decidable (Like pattern text) :=
  decidable_of_iff _ matchesLike_iff

/-! ### Patterns of searches -/

/-- The escaped characters of a needle match the needle. -/
theorem like_escaped_append_iff {needle pattern text : List Char} :
    Like (needle.flatMap escapeLike ++ pattern) text ↔
      ∃ rest, text = needle ++ rest ∧ Like pattern rest := by
  induction needle generalizing text with
  | nil => simp
  | cons c needle ih =>
      have hfirst : ∀ pattern, Like (escapeLike c ++ pattern) text ↔
          ∃ rest, text = c :: rest ∧ Like pattern rest := by
        intro pattern
        by_cases hc : c = '\\' ∨ c = '%' ∨ c = '_'
        · rw [escapeLike, if_pos hc]
          exact like_escaped_iff
        · rw [escapeLike, if_neg hc]
          exact like_literal_iff (by simpa using hc)
      rw [List.flatMap_cons, List.append_assoc, hfirst]
      constructor
      · rintro ⟨rest, rfl, h⟩
        obtain ⟨rest, rfl, hrest⟩ := ih.mp h
        exact ⟨rest, rfl, hrest⟩
      · rintro ⟨rest, rfl, h⟩
        exact ⟨needle ++ rest, rfl, ih.mpr ⟨rest, rfl, h⟩⟩

/-- The texts that are like the pattern of a search are those that the needle stands in, which is
also how a search is decided in process. -/
theorem searches_match_literally (needle text : String) :
    (Like (likePattern needle).toList text.toList ↔ needle.toList <:+: text.toList) ∧
      matchesLike (likePattern needle).toList text.toList =
        Text.occursIn needle.toList text.toList := by
  have hend : ∀ rest, Like ['%'] rest := fun rest =>
    like_anything_iff.mpr ⟨rest, [], (List.append_nil rest).symm, .nil⟩
  have hlike : Like (likePattern needle).toList text.toList ↔ needle.toList <:+: text.toList := by
    rw [likePattern, String.toList_ofList, List.cons_append, like_anything_iff]
    simp only [like_escaped_append_iff, hend, and_true]
    constructor
    · rintro ⟨before, _, htext, after, rfl⟩
      exact ⟨before, after, by rw [htext, List.append_assoc]⟩
    · rintro ⟨before, after, htext⟩
      exact ⟨before, needle.toList ++ after, by rw [← htext, List.append_assoc], after, rfl⟩
  refine ⟨hlike, ?_⟩
  rw [Bool.eq_iff_iff, matchesLike_iff, hlike, Text.occursIn_iff]

-- the needle ends in a backslash, which stands in front of the last percent sign of the pattern
example : (likePattern "50%\\").toList = "%50\\%\\\\%".toList ∧
    Like (likePattern "50%\\").toList "at 50%\\ off".toList ∧
    ¬ Like (likePattern "50%\\").toList "at 500\\ off".toList := by decide

end RunRadar.Sql
