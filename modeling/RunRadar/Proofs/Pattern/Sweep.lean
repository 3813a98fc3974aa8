import Mathlib.Data.List.Basic
import RunRadar.Pattern.Match

/-!
# RunRadar.Proofs.Pattern.Sweep

**Leftmost and longest**. A pattern that prefers long matches finds the first place of a text where
a part fits, takes the longest part that fits there, and goes on behind it. `Sweep` says this of the
text alone, and all matches of such a pattern are those of the sweep (`Takes.exists_sweep`).

A part that fits may be missed, where one that begins further left or is longer takes its place.
This is the only way to miss it (`Sweep.mem_or_hidden`).
-/

namespace RunRadar.Pattern

/-! ### Sweeps -/

/-- Which parts of a text fit, by what stands before and behind them. -/
abbrev Fitting := (before part after : List Char) → Prop

/-- Whether a part fits and no longer one fits at its place. -/
structure IsLongest (fits : Fitting) (before part after : List Char) : Prop where
  fitting : fits before part after
  longest : ∀ part' after', part' ++ after' = part ++ after → fits before part' after' →
    part'.length ≤ part.length

/-- What is found in the rest of a text from left to right: the parts that fit at the first place
where one does, the longest of them, and then what is found behind it. -/
inductive Sweep (fits : Fitting) : (before rest : List Char) → (found : List (List Char)) → Prop
  | done {before : List Char} : Sweep fits before [] []
  | skip {before : List Char} {c : Char} {rest : List Char} {found : List (List Char)}
      (misfit : ∀ part after, part ++ after = c :: rest → ¬fits before part after)
      (further : Sweep fits (before ++ [c]) rest found) : Sweep fits before (c :: rest) found
  | take {before part after rest : List Char} {found : List (List Char)}
      (split : part ++ after = rest) (longest : IsLongest fits before part after)
      (further : Sweep fits (before ++ part) after found) : Sweep fits before rest (part :: found)

/-- Whether a part of a text hides another one: it covers its first character, and is none of its
beginnings. -/
structure Hides (start part start' part' : List Char) : Prop where
  le : start.length ≤ start'.length
  covers : start'.length < start.length + part.length
  differs : start.length < start'.length ∨ part'.length < part.length

section Sweep

variable {fits : Fitting} (hne : ∀ {before part after}, fits before part after → part ≠ [])
include hne

/-- A sweep finds one thing only. -/
theorem Sweep.unique {before rest : List Char} {found found' : List (List Char)}
    (h : Sweep fits before rest found) (h' : Sweep fits before rest found') : found = found' := by
  induction h generalizing found' with
  | done =>
      cases h' with
      | done => rfl
      | take split longest further =>
          exact absurd (List.append_eq_nil_iff.mp split).1 (hne longest.fitting)
  | skip misfit further ih =>
      cases h' with
      | skip misfit' further' => exact ih further'
      | take split longest further' => exact absurd longest.fitting (misfit _ _ split)
  | @take before part after rest found split longest further ih =>
      cases h' with
      | done => exact absurd (List.append_eq_nil_iff.mp split).1 (hne longest.fitting)
      | skip misfit further' => exact absurd longest.fitting (misfit _ _ split)
      | @take _ part' after' _ _ split' longest' further' =>
          have hle := longest.longest part' after' (split'.trans split.symm) longest'.fitting
          have hge := longest'.longest part after (split.trans split'.symm) longest.fitting
          obtain ⟨rfl, rfl⟩ := List.append_inj (split.trans split'.symm) (Nat.le_antisymm hge hle)
          rw [ih further']

/-- A part that fits is found, or it is hidden by one that is. -/
theorem Sweep.mem_or_hidden {before rest : List Char} {found : List (List Char)}
    (h : Sweep fits before rest found) {start part after : List Char}
    (htext : start ++ part ++ after = before ++ rest) (hle : before.length ≤ start.length)
    (hfits : fits start part after) :
    part ∈ found ∨ ∃ start' part' after', part' ∈ found ∧
      start' ++ part' ++ after' = before ++ rest ∧ IsLongest fits start' part' after' ∧
      Hides start' part' start part := by
  induction h with
  | @done before =>
      have hlength := congrArg List.length htext
      simp only [List.length_append, List.length_nil] at hlength
      exact absurd (List.length_eq_zero_iff.mp (by omega)) (hne hfits)
  | @skip before c rest found misfit further ih =>
      have hmove : before ++ c :: rest = before ++ [c] ++ rest := by simp
      rcases Nat.eq_or_lt_of_le hle with hhere | hlater
      · rw [List.append_assoc] at htext
        obtain ⟨rfl, hrest⟩ := List.append_inj htext hhere.symm
        exact absurd hfits (misfit part after hrest)
      · rw [hmove] at htext ⊢
        exact ih htext (by rwa [List.length_append, List.length_singleton])
  | @take before part' after' rest found split longest further ih =>
      have hmove : before ++ rest = before ++ part' ++ after' := by rw [← split, List.append_assoc]
      rw [hmove] at htext ⊢
      by_cases hbehind : before.length + part'.length ≤ start.length
      · rcases ih htext (by rwa [List.length_append]) with
          hmem | ⟨start', other, after', hmem, hsplit, hother, hhides⟩
        · exact .inl (List.mem_cons_of_mem _ hmem)
        · exact .inr ⟨start', other, after', List.mem_cons_of_mem _ hmem, hsplit, hother, hhides⟩
      · by_cases hsame : before.length = start.length ∧ part'.length ≤ part.length
        · rw [List.append_assoc, List.append_assoc] at htext
          obtain ⟨rfl, hrest⟩ := List.append_inj htext hsame.1.symm
          have hlong := longest.longest part after hrest hfits
          obtain ⟨rfl, -⟩ := List.append_inj hrest (Nat.le_antisymm hlong hsame.2)
          exact .inl List.mem_cons_self
        · refine .inr ⟨before, part', after', List.mem_cons_self, rfl, longest, hle,
            Nat.lt_of_not_le hbehind, ?_⟩
          omega

/-- Where the whole text fits, it is all that is found. -/
theorem Sweep.eq_singleton {text : List Char} {found : List (List Char)}
    (h : Sweep fits [] text found) (hfits : fits [] text []) : found = [text] := by
  refine h.unique hne (.take (List.append_nil text) ⟨hfits, fun part' after' htext _ => ?_⟩ .done)
  rw [List.append_nil] at htext
  rw [← htext, List.length_append]
  exact Nat.le_add_right _ _

end Sweep

/-! ### Patterns that prefer long matches -/

namespace Place

/-- The place between the two halves of a text. -/
def between (before rest : List Char) : Place := ⟨before.getLast?, rest, before.length, []⟩

theorem next?_between (before : List Char) (c : Char) (rest : List Char) :
    (between before (c :: rest)).next? = some (between (before ++ [c]) rest) := by
  simp [between, next?]

theorem textTo_between (before part after : List Char) :
    (between before (part ++ after)).textTo (between (before ++ part) after) = part := by
  simp [between, textTo]

/-- Places of a text from right to left. -/
def Recede (places : List Place) : Prop := places.Pairwise fun p q => q.offset < p.offset

end Place

/-- Whether a pattern stops at the ends of what fits and nowhere else, where it does so as late as
it can. -/
structure Takes (pattern : Pattern) (fits : Fitting) : Prop where
  ne_nil : ∀ {before part after}, fits before part after → part ≠ []
  needed : ∀ {before part after}, fits before part after →
    ∀ set ∈ pattern.needed, part.any (fun c => set.contains c.toNat) = true
  recede : ∀ before rest, Place.Recede (pattern.ends [] [.between before rest])
  mem_ends_iff : ∀ {before rest q}, q ∈ pattern.ends [] [.between before rest] ↔
    ∃ part after, part ++ after = rest ∧ q = .between (before ++ part) after ∧
      fits before part after

namespace Takes

variable {pattern : Pattern} {fits : Fitting} (h : pattern.Takes fits)
include h

/-- Where nothing fits, the pattern has no end. -/
theorem misfit_of_head? {before rest : List Char}
    (hhead : (pattern.ends [] [.between before rest]).head? = none) :
    ∀ part after, part ++ after = rest → ¬fits before part after := by
  intro part after hrest hfits
  have hmem := h.mem_ends_iff.mpr ⟨part, after, hrest, rfl, hfits⟩
  rw [List.head?_eq_none_iff] at hhead
  rw [hhead] at hmem
  cases hmem

/-- The first end is that of the longest part. -/
theorem exists_longest_of_head? {before rest : List Char} {q : Place}
    (hhead : (pattern.ends [] [.between before rest]).head? = some q) :
    ∃ part after, part ++ after = rest ∧ q = .between (before ++ part) after ∧
      IsLongest fits before part after := by
  obtain ⟨others, hends⟩ := List.head?_eq_some_iff.mp hhead
  have hrecede := h.recede before rest
  rw [hends] at hrecede
  have hq : q ∈ pattern.ends [] [.between before rest] := by simp [hends]
  obtain ⟨part, after, hrest, rfl, hfits⟩ := h.mem_ends_iff.mp hq
  refine ⟨part, after, hrest, rfl, hfits, fun part' after' hrest' hfits' => ?_⟩
  have hmem := h.mem_ends_iff.mpr ⟨part', after', hrest'.trans hrest, rfl, hfits'⟩
  rw [hends, List.mem_cons] at hmem
  have hoffset : (Place.between (before ++ part') after').offset ≤
      (Place.between (before ++ part) after).offset := by
    rcases hmem with heq | hmem
    · exact Nat.le_of_eq (congrArg Place.offset heq)
    · exact Nat.le_of_lt (List.rel_of_pairwise_cons hrecede hmem)
  simpa [Place.between] using hoffset

/-- The first match at a place or behind it, in the sweep from there on. -/
theorem searchFrom_between {room : Nat} (before : List Char) {rest : List Char}
    (hroom : rest.length < room) :
    (pattern.searchFrom room (.between before rest) = none ∧ Sweep fits before rest []) ∨
    ∃ skipped part after, skipped ++ part ++ after = rest ∧ part ≠ [] ∧
      fits (before ++ skipped) part after ∧
      pattern.searchFrom room (.between before rest) =
        some (.between (before ++ skipped) (part ++ after),
          .between (before ++ skipped ++ part) after) ∧
      ∀ found, Sweep fits (before ++ skipped ++ part) after found →
        Sweep fits before rest (part :: found) := by
  induction room generalizing before rest with
  | zero => exact absurd hroom (Nat.not_lt_zero _)
  | succ room ih =>
      rw [searchFrom]
      cases hhead : (pattern.ends [] [.between before rest]).head? with
      | some q =>
          obtain ⟨part, after, rfl, rfl, hlongest⟩ := h.exists_longest_of_head? hhead
          have hne := h.ne_nil hlongest.fitting
          refine .inr ⟨[], part, after, rfl, hne, ?_, ?_, fun found hfound => ?_⟩
          · rw [List.append_nil]
            exact hlongest.fitting
          · rw [List.append_nil]
          · rw [List.append_nil] at hfound
            exact .take rfl hlongest hfound
      | none =>
          have hmisfit := h.misfit_of_head? hhead
          cases rest with
          | nil => exact .inl ⟨rfl, .done⟩
          | cons c rest =>
              dsimp only
              rw [Place.next?_between, Option.bind_some]
              rcases ih (before ++ [c]) (Nat.lt_of_succ_lt_succ hroom) with
                ⟨hnone, hsweep⟩ | ⟨skipped, part, after, rfl, hne, hfits, hsome, hsweep⟩
              · exact .inl ⟨hnone, .skip hmisfit hsweep⟩
              · rw [List.append_assoc before] at hfits hsome hsweep
                exact .inr ⟨c :: skipped, part, after, rfl, hne, hfits, hsome,
                  fun found hfound => .skip hmisfit (hsweep found hfound)⟩

/-- A search that gives up for a missing character would have found nothing. -/
theorem search?_between (before rest : List Char) :
    pattern.search? (.between before rest) =
      pattern.searchFrom (rest.length + 1) (.between before rest) := by
  rw [search?]
  split
  · rfl
  · next hneeded =>
      rcases h.searchFrom_between before (Nat.lt_succ_self rest.length) with
        ⟨hnone, -⟩ | ⟨skipped, part, after, rfl, -, hfits, -, -⟩
      · exact hnone.symm
      · refine absurd (List.all_eq_true.mpr fun set hset => ?_) hneeded
        have hpart := h.needed hfits set hset
        simp only [Place.between, List.any_append, hpart, Bool.or_true, Bool.true_or]

/-- The matches from a place on are those of the sweep. -/
theorem sweep_matchesFrom {room : Nat} {last : Option Nat} {before rest : List Char}
    (hroom : rest.length < room) :
    Sweep fits before rest (pattern.matchesFrom room last (.between before rest)) := by
  induction room generalizing last before rest with
  | zero => exact absurd hroom (Nat.not_lt_zero _)
  | succ room ih =>
      rw [matchesFrom, h.search?_between]
      rcases h.searchFrom_between before (Nat.lt_succ_self rest.length) with
        ⟨hnone, hsweep⟩ | ⟨skipped, part, after, rfl, hne, -, hsome, hsweep⟩
      · rw [hnone]
        exact hsweep
      · have hpart : 0 < part.length := List.length_pos_iff.mpr hne
        simp only [List.length_append] at hroom
        have hmoves : (Place.between (before ++ skipped ++ part) after).offset ≠
            (Place.between (before ++ skipped) (part ++ after)).offset := by
          simp only [Place.between, List.length_append]
          omega
        rw [hsome]
        dsimp only
        rw [if_neg fun hand => hmoves hand.1, Place.textTo_between]
        exact hsweep _ (ih (by omega))

/-- All matches in a text are those of the sweep. -/
theorem exists_sweep (text : String) :
    ∃ found, Sweep fits [] text.toList found ∧ pattern.findAll text = found.map String.ofList :=
  ⟨_, h.sweep_matchesFrom (by omega), rfl⟩

end Takes

end RunRadar.Pattern
