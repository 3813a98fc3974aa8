import RunRadar.Proofs.Filter.Schema
import RunRadar.Proofs.Pattern.Row
import RunRadar.Run.Virtual

/-!
# RunRadar.Proofs.Filter.CardNumber

**Card numbers in texts**. The pattern of card numbers takes rows of thirteen to nineteen decimal
digits that stand apart from words (`takes_cardPattern`), and only then are the checksums looked at.
So a card number is found unless another such row hides it whose checksum is wrong
(`card_passes_unless_hidden`). None does where no digit is one blank or hyphen away.
-/

namespace RunRadar

/-! ### Sets of characters -/

namespace Text.Ranges

/-- Whether the ranges lie in the others, each in one of them. -/
def within (ranges : Ranges) : Ranges → Bool
  | [] => ranges.isEmpty
  | (first, last) :: others =>
    ranges.head?.all (first ≤ ·.1) && within (ranges.dropWhile (·.2 ≤ last)) others

theorem le_of_contains {r : Nat × Nat} {ranges : Ranges} {c : Nat}
    (h : contains (r :: ranges) c = true) : r.1 ≤ c :=
  of_decide_eq_true (Bool.and_eq_true_iff.mp h).1

/-- The ranges that end before a character do not have it. -/
theorem contains_dropWhile {last : Nat} {ranges : Ranges} {c : Nat}
    (h : ranges.contains c = true) (hlast : last < c) :
    contains (ranges.dropWhile (·.2 ≤ last)) c = true := by
  induction ranges with
  | nil => exact h
  | cons r ranges ih =>
      rw [List.dropWhile_cons]
      split
      · next hr =>
          have hbehind : ¬c ≤ r.2 := Nat.not_le_of_lt (Nat.lt_of_le_of_lt (by simpa using hr) hlast)
          simp only [contains, hbehind, decide_false, Bool.false_or, Bool.and_eq_true] at h
          exact ih h.2
      · exact h

theorem contains_of_within {ranges others : Ranges} {c : Nat} (h : ranges.within others = true)
    (hc : ranges.contains c = true) : others.contains c = true := by
  induction others generalizing ranges with
  | nil =>
      rw [within, List.isEmpty_iff] at h
      rwa [h] at hc
  | cons r others ih =>
      rw [within, Bool.and_eq_true] at h
      obtain ⟨hfirst, hrest⟩ := h
      obtain ⟨s, ranges, rfl⟩ := List.exists_cons_of_ne_nil (l := ranges) (by rintro rfl; cases hc)
      have hle : r.1 ≤ c := Nat.le_trans (of_decide_eq_true hfirst) (le_of_contains hc)
      by_cases hlast : c ≤ r.2
      · simp [contains, hle, hlast]
      · simp [contains, hle, ih hrest (contains_dropWhile hc (Nat.lt_of_not_le hlast))]

end Text.Ranges

open Pattern

namespace Filter.Scanned

/-- A decimal digit, of any script. -/
def isDecimal (c : Char) : Bool := Unicode.digits.contains c.toNat

/-- What may stand between the digits of a card number. -/
def isSeparator (c : Char) : Bool := c = ' ' || c = '-'

theorem isWord_of_isDecimal {c : Char} (h : isDecimal c = true) : isWord true c = true :=
  Text.Ranges.contains_of_within (by decide +kernel) h

theorem isDecimal_of_isDigit {c : Char} (h : c.isDigit = true) : isDecimal c = true := by
  simp only [Char.isDigit, Bool.and_eq_true, decide_eq_true_eq] at h
  exact Text.Ranges.contains_head _ h.1 h.2

/-- The separators as the pattern has them. -/
def separators : Text.Ranges := [(0x20, 0x20), (0x2D, 0x2D)]

theorem hasChar_separators : hasChar separators = isSeparator := by
  funext c
  have hspace : c = ' ' ↔ c.toNat = 0x20 := Char.toNat_inj.symm
  have hhyphen : c = '-' ↔ c.toNat = 0x2D := Char.toNat_inj.symm
  rw [Bool.eq_iff_iff]
  simp only [hasChar, separators, Text.Ranges.contains, isSeparator, hspace, hhyphen,
    Bool.and_eq_true, Bool.or_eq_true, decide_eq_true_eq, Bool.false_eq_true, or_false]
  omega

theorem contains_digits_of_separators {c : Nat} (h : separators.contains c = true) :
    Unicode.digits.contains c = false := by
  simp only [separators, Text.Ranges.contains, Bool.and_eq_true, Bool.or_eq_true,
    decide_eq_true_eq, Bool.false_eq_true, or_false] at h
  obtain rfl | rfl : c = 0x20 ∨ c = 0x2D := by omega
  · rfl
  · rfl

theorem isDecimal_of_isSeparator {c : Char} (h : isSeparator c = true) : isDecimal c = false :=
  contains_digits_of_separators ((congrFun hasChar_separators c).trans h)

/-- Whether a part of a text is one that the pattern of card numbers can take: from thirteen to
nineteen digits. -/
abbrev IsCandidate : Fitting := IsRun isDecimal isSeparator 13 19

theorem takes_cardPattern : cardPattern.Takes IsCandidate := by
  have hpattern : cardPattern = spacedRun (.word true .boundary) Unicode.digits separators 11 18 :=
    rfl
  rw [hpattern, IsCandidate, ← hasChar_separators]
  exact takes_spacedRun (fun c hc => contains_digits_of_separators hc)
    (fun c hc => isWord_of_isDecimal hc) (by decide)

/-! ### Card numbers -/

/-- Whether a part of a text is a card number that stands apart from words. -/
structure IsCard (before card after : List Char) : Prop where
  run : IsRun Char.isDigit isSeparator 13 19 before card after
  valid : Card.isValid card = true

theorem IsCard.isCandidate {before card after : List Char} (h : IsCard before card after) :
    IsCandidate before card after := by
  obtain ⟨n, hleast, hmost, hrow⟩ := h.run.row
  exact ⟨⟨n, hleast, hmost, hrow.mono (fun _ => isDecimal_of_isDigit) fun _ hc => hc⟩,
    h.run.before, h.run.after⟩

theorem mem_scan_card_iff {text : String} {m : List Char} :
    String.ofList m ∈ PersonalData.card.scan text ↔
      String.ofList m ∈ cardPattern.findAll text ∧ Card.isValid m = true := by
  rw [PersonalData.scan]
  simp [PersonalData.pattern, List.mem_filter]

/-- A card number is found, or a candidate is taken in its place that is none. -/
theorem mem_scan_card_or_hidden {text : String} {before card after : List Char}
    (htext : text.toList = before ++ card ++ after) (hcard : IsCard before card after) :
    String.ofList card ∈ PersonalData.card.scan text ∨
      ∃ before' other after', text.toList = before' ++ other ++ after' ∧
        IsLongest IsCandidate before' other after' ∧ Hides before' other before card ∧
        String.ofList other ∈ cardPattern.findAll text := by
  obtain ⟨found, hsweep, hfound⟩ := takes_cardPattern.exists_sweep text
  have hwhole : before ++ card ++ after = [] ++ text.toList := by rw [htext, List.nil_append]
  rcases hsweep.mem_or_hidden takes_cardPattern.ne_nil hwhole (Nat.zero_le _)
    hcard.isCandidate with
    hmem | ⟨before', other, after', hmem, hsplit, hother, hhides⟩
  · have hcardFound : String.ofList card ∈ cardPattern.findAll text :=
      hfound ▸ List.mem_map_of_mem hmem
    exact .inl (mem_scan_card_iff.mpr ⟨hcardFound, hcard.valid⟩)
  · exact .inr ⟨before', other, after', hsplit.symm, hother, hhides,
      hfound ▸ List.mem_map_of_mem hmem⟩

/-! ### The filter -/

section Params

variable {reader : ParamReader} {name : String} {p : Payload}

theorem mem_fields_of_ofName? (h : Payload.ofName? name = some p) : name ∈ fields := by
  unfold Payload.ofName? at h
  split at h
  · next hinput => exact hinput ▸ List.mem_cons_self
  · split at h
    · next houtput => exact houtput ▸ List.mem_cons_of_mem _ List.mem_cons_self
    · cases h

theorem payload_eq_ok (hfield : reader.given? "field" = some (.string name))
    (hname : Payload.ofName? name = some p) : payload reader = .ok p := by
  rw [payload, ParamReader.select_eq_ok hfield (mem_fields_of_ofName? hname)]
  dsimp only
  rw [hname]

variable (htype : reader.given? "type" = none ∨ reader.given? "type" = some (.string "contains"))
include htype

theorem wantsMatch_eq_ok : wantsMatch reader = .ok true := by
  rw [wantsMatch, ParamReader.selectOr]
  rcases htype with hnone | hcontains
  · rw [hnone]
    rfl
  · rw [hcontains]
    dsimp only
    rw [ParamReader.select_eq_ok hcontains (by decide)]
    rfl

/-- A payload and the wish for matches fit the filters for personal data. -/
theorem validate_eq_ok (hfield : reader.given? "field" = some (.string name))
    (hname : Payload.ofName? name = some p) :
    reader.validate [fieldSpec, matchTypeSpec] = .ok () := by
  refine ParamReader.validate_eq_ok_iff.mpr fun spec hspec => ?_
  rcases List.mem_pair.mp hspec with rfl | rfl
  · exact ParamReader.check_needed_eq_ok_iff.mpr
      ⟨name, ParamReader.select_eq_ok hfield (mem_fields_of_ofName? hname)⟩
  · unfold ParamReader.check matchTypeSpec ParamSpec.allowed
    dsimp only
    rcases htype with hnone | hcontains
    · rw [hnone]
      rfl
    · rw [hcontains]
      exact ParamReader.forgotten_eq_ok.mpr
        ⟨_, ParamReader.select_eq_ok hcontains (by decide)⟩

variable (reader) in
/-- Personal data is looked for in the plain text of the payload. -/
theorem evaluate_eq_ok (data : PersonalData)
    (hfield : reader.given? "field" = some (.string name))
    (hname : Payload.ofName? name = some p) {run : Run} {text : String}
    (htext : run.text? p = some text) :
    data.evaluate run reader = .ok (matchVerdict true (data.scan text)) := by
  rw [PersonalData.evaluate, payload_eq_ok hfield hname]
  dsimp only
  rw [wantsMatch_eq_ok htype, htext]
  rfl

end Params

/-- Where something is found that is wanted, the text passes. -/
theorem passed_of_mem {found : List String} {m : String} (h : m ∈ found) :
    (matchVerdict true found).passed = true := by
  simp [matchVerdict, List.ne_nil_of_mem h]

end Filter.Scanned

namespace Filter

open Scanned

/-- A text in which a card number stands passes, unless a candidate that is no card number is taken
in its place: one that begins in front of it and reaches into it, or one that begins with it and
goes on. There is none unless a digit stands in front of the card number or behind it with a single
separator between. -/
theorem card_passes_unless_hidden (filter : Filter)
    (hfilter : Registry.builtin.lookup? "cc" = some filter) (params : Json.Object) (name : String)
    (p : Payload) (hfield : params.present? "field" = some (.string name))
    (hname : Payload.ofName? name = some p)
    (htype : params.present? "type" = none ∨
      params.present? "type" = some (.string "contains"))
    (run : Run) (text : String) (htext : run.text? p = some text) (before card after : List Char)
    (hsplit : text.toList = before ++ card ++ after) (hcard : IsCard before card after) :
    ∃ evaluate verdict, filter.evaluator? = some evaluate ∧ filter.validate params = .ok () ∧
      (∀ moment, evaluate moment run (filter.reader params) = .answer (.ok verdict)) ∧
      (verdict.passed = true ∨
        ∃ before' other after', text.toList = before' ++ other ++ after' ∧
          IsLongest IsCandidate before' other after' ∧ Hides before' other before card ∧
          String.ofList other ∈ cardPattern.findAll text ∧ Card.isValid other = false) ∧
      (IsAlone isDecimal isSeparator before after → verdict.passed = true) := by
  cases hfilter
  have hverdict := evaluate_eq_ok ⟨"cc", params⟩ htype .card hfield hname htext
  refine ⟨_, _, rfl, validate_eq_ok htype hfield hname,
    fun _ => congrArg Consultation.answer hverdict, ?_, ?_⟩
  · rcases mem_scan_card_or_hidden hsplit hcard with
      hmem | ⟨before', other, after', htext', hother, hhides, hmem⟩
    · exact .inl (passed_of_mem hmem)
    · cases hvalid : Card.isValid other with
      | true => exact .inl (passed_of_mem (mem_scan_card_iff.mpr ⟨hmem, hvalid⟩))
      | false => exact .inr ⟨before', other, after', htext', hother, hhides, hmem, hvalid⟩
  · intro halone
    rcases mem_scan_card_or_hidden hsplit hcard with
      hmem | ⟨before', other, after', htext', hother, hhides, -⟩
    · exact passed_of_mem hmem
    · have hclear := hcard.isCandidate.not_hides (fun _ => isWord_of_isDecimal)
        (fun _ => isDecimal_of_isSeparator) halone hother.fitting (htext'.symm.trans hsplit)
      exact absurd hhides hclear

/-- A card number passes behind a candidate that is none and in front of another number. -/
theorem card_passes_between_numbers :
    let params : Json.Object := .ofList [("field", .string "output"), ("type", .string "contains")]
    let text := "1234567890123 / 4111-1111 1111 1111 or 42"
    let run := ({ output := some (.string text) } : VirtualRun).runUntil ⟨0, 0, by decide⟩ none
    ∃ filter evaluate verdict, Registry.builtin.lookup? "cc" = some filter ∧
      filter.evaluator? = some evaluate ∧
      (∀ moment, evaluate moment run (filter.reader params) = .answer (.ok verdict)) ∧
      verdict.passed = true := by
  intro params text run
  have hcard : IsCard "1234567890123 / ".toList "4111-1111 1111 1111".toList " or 42".toList :=
    ⟨⟨⟨16, by decide, by decide, by decide⟩, by decide, by decide⟩, by decide⟩
  obtain ⟨evaluate, verdict, hevaluate, -, hverdict, -, halone⟩ :=
    card_passes_unless_hidden _ rfl params "output" .output rfl rfl (.inr rfl) run text rfl _ _ _
      (by decide) hcard
  exact ⟨_, evaluate, verdict, rfl, hevaluate, hverdict, halone ⟨by decide, by decide⟩⟩

/-- A card number behind a digit and a blank is missed: both together are one candidate. -/
theorem card_behind_digit_is_missed :
    ¬ ∀ (filter : Filter) (params : Json.Object) (name : String) (p : Payload) (run : Run)
      (text : String) (before card after : List Char),
      Registry.builtin.lookup? "cc" = some filter →
      params.present? "field" = some (.string name) → Payload.ofName? name = some p →
      params.present? "type" = some (.string "contains") → run.text? p = some text →
      text.toList = before ++ card ++ after → IsCard before card after →
      ∃ evaluate verdict, filter.evaluator? = some evaluate ∧
        (∀ moment, evaluate moment run (filter.reader params) = .answer (.ok verdict)) ∧
        verdict.passed = true := by
  intro h
  let params : Json.Object := .ofList [("field", .string "output"), ("type", .string "contains")]
  let text := "7 4111111111111111"
  let run := ({ output := some (.string text) } : VirtualRun).runUntil ⟨0, 0, by decide⟩ none
  have hcard : IsCard "7 ".toList "4111111111111111".toList [] :=
    ⟨⟨⟨16, by decide, by decide, by decide⟩, by decide, by decide⟩, by decide⟩
  obtain ⟨evaluate, verdict, hevaluate, hverdict, hpassed⟩ :=
    h _ params "output" .output run text _ _ _ rfl rfl rfl rfl rfl (by decide) hcard
  have hall : IsCandidate [] text.toList [] :=
    ⟨⟨17, by decide, by decide, by decide⟩, by decide, by decide⟩
  obtain ⟨found, hsweep, hfound⟩ := takes_cardPattern.exists_sweep text
  rw [hsweep.eq_singleton takes_cardPattern.ne_nil hall] at hfound
  have hinvalid : Card.isValid text.toList = false := by decide
  have hscan : PersonalData.card.scan text = [] := by
    rw [PersonalData.scan]
    simp [PersonalData.pattern, hfound, hinvalid]
  have hlooked := evaluate_eq_ok ⟨"cc", params⟩ (.inr rfl) .card rfl rfl
    (show run.text? .output = some text from rfl)
  cases hevaluate
  have hsame := Except.ok.inj (hlooked.symm.trans (Consultation.answer.inj (hverdict 0)))
  rw [← hsame, hscan] at hpassed
  exact absurd hpassed (by decide)

end Filter

end RunRadar
