import Mathlib.Data.Nat.Bits
import Mathlib.Data.Sym.Sym2
import RunRadar.Filter.Card

/-!
# RunRadar.Proofs.Filter.Checksum

**What the checksum of card numbers catches**. Of two texts whose digits differ by a usual slip, one
digit mistaken for another or two neighbours that have changed places, at most one is valid,
whatever stands between the digits (`slips_are_caught`). Only a 0 and a 9 can change places
unnoticed (`isValid_swapped_iff`).

A checksum is a sum over places, so those of two rows agree if the sums over the digits agree in
which the rows differ. The number of digits behind them says which of them count double
(`checksum_mod_eq_iff`). What is left are two facts about digits: no two of them add the same in one
place (`share_mod_eq_iff`), and to no two does counting double add as much, but for a 0 and a 9,
which it leaves as they are (`share_add_share_mod_eq_iff`).
-/

namespace RunRadar.Filter.Card

/-! ### Shares of digits -/

/-- What a digit adds to the sum. -/
def share (double : Bool) (d : Nat) : Nat := if double then doubled d else d

theorem doubled_lt {d : Nat} (hd : d < 10) : doubled d < 10 := by
  unfold doubled
  split <;> omega

theorem doubled_inj {d e : Nat} (hd : d < 10) (he : e < 10) : doubled d = doubled e ↔ d = e := by
  refine ⟨fun h => ?_, fun h => h ▸ rfl⟩
  unfold doubled at h
  split at h <;> split at h <;> omega

/-- In one place, no two digits add the same. -/
theorem share_mod_eq_iff {double : Bool} {d e : Nat} (hd : d < 10) (he : e < 10) :
    share double d % 10 = share double e % 10 ↔ d = e := by
  cases double with
  | false =>
      rw [share, share, if_neg Bool.false_ne_true, if_neg Bool.false_ne_true, Nat.mod_eq_of_lt hd,
        Nat.mod_eq_of_lt he]
  | true =>
      rw [share, share, if_pos rfl, if_pos rfl, Nat.mod_eq_of_lt (doubled_lt hd),
        Nat.mod_eq_of_lt (doubled_lt he), doubled_inj hd he]

/-- Of two neighbours one counts double. Which of them does is no matter only for a 0 and a 9. -/
theorem share_add_share_mod_eq_iff {double : Bool} {d e : Nat} (hd : d < 10) (he : e < 10) :
    (share double d + share (!double) e) % 10 = (share double e + share (!double) d) % 10 ↔
      d = e ∨ s(d, e) = s(0, 9) := by
  have hdigits : ∀ double, ∀ d < 10, ∀ e < 10,
      (share double d + share (!double) e) % 10 = (share double e + share (!double) d) % 10 ↔
        d = e ∨ s(d, e) = s(0, 9) := by decide
  exact hdigits double d hd e he

/-! ### Checksums -/

theorem sumFrom_singleton (double : Bool) (d : Nat) : sumFrom double [d] = share double d := rfl

theorem sumFrom_append (double : Bool) (ds es : List Nat) :
    sumFrom double (ds ++ es) = sumFrom double ds + sumFrom (double ^^ ds.length.bodd) es := by
  induction ds generalizing double with
  | nil => simp [sumFrom]
  | cons d ds ih => simp [sumFrom, ih, Nat.add_assoc]

/-- With an odd number of digits behind it, a digit counts double. -/
theorem checksum_append (ds es : List Nat) :
    checksum (ds ++ es) = checksum es + sumFrom es.length.bodd ds.reverse := by
  rw [checksum, List.reverse_append, sumFrom_append, List.length_reverse, Bool.false_xor, checksum]

/-- Digits can be exchanged for as many others if these have the same sum in their place. -/
theorem checksum_mod_eq_iff (before after : List Nat) {ds es : List Nat}
    (hlength : ds.length = es.length) :
    checksum (before ++ (ds ++ after)) % 10 = checksum (before ++ (es ++ after)) % 10 ↔
      sumFrom after.length.bodd ds.reverse % 10 = sumFrom after.length.bodd es.reverse % 10 := by
  simp only [checksum_append, List.length_append, hlength]
  omega

/-- Whatever the other digits are, some digit makes the checksum a multiple of ten. -/
theorem exists_checksum_mod_eq_zero (before after : List Nat) :
    ∃ d < 10, checksum (before ++ d :: after) % 10 = 0 := by
  have hdigits : ∀ double, ∀ rest < 10, ∃ d < 10, (share double d + rest) % 10 = 0 := by decide
  obtain ⟨d, hd, hsum⟩ := hdigits after.length.bodd
    ((checksum after + sumFrom (!after.length.bodd) before.reverse) % 10) (Nat.mod_lt _ (by decide))
  refine ⟨d, hd, ?_⟩
  rw [checksum_append, ← List.singleton_append, checksum_append]
  simp only [List.reverse_singleton, sumFrom_singleton, List.length_append, List.length_singleton,
    Nat.bodd_add, Nat.bodd_one, Bool.true_xor]
  omega

/-! ### Valid texts -/

/-- What a digit stands for. -/
def value (c : Char) : Nat := c.toNat - '0'.toNat

theorem value_lt {c : Char} (hc : c.isDigit = true) : value c < 10 := by
  have h := Char.isDigit_iff_toNat.mp hc
  simp only [value, Char.reduceToNat] at *
  omega

theorem value_inj {c d : Char} (hc : c.isDigit = true) (hd : d.isDigit = true) :
    value c = value d ↔ c = d := by
  refine ⟨fun h => Char.toNat_inj.mp ?_, fun h => h ▸ rfl⟩
  have hc := (Char.isDigit_iff_toNat.mp hc).1
  have hd := (Char.isDigit_iff_toNat.mp hd).1
  unfold value at h
  omega

theorem isDigit_of_mem {text row : List Char} (hrow : text.filter Char.isDigit = row) {c : Char}
    (hc : c ∈ row) : c.isDigit = true :=
  List.of_mem_filter (hrow ▸ hc)

theorem isValid_iff {text row : List Char} (hrow : text.filter Char.isDigit = row) :
    isValid text = true ↔
      13 ≤ row.length ∧ row.length ≤ 19 ∧ checksum (row.map value) % 10 = 0 := by
  have hdigits : digits text = row.map value := by rw [← hrow]; rfl
  simp [isValid, hdigits, and_assoc]

/-- A text with some digits exchanged for as many others is as valid as before if these have the
same sum in their place. -/
theorem isValid_iff_of_exchange {a b before after : List Char} (cs ds : List Char)
    (ha : a.filter Char.isDigit = before ++ (cs ++ after))
    (hb : b.filter Char.isDigit = before ++ (ds ++ after)) (hlength : cs.length = ds.length)
    (hvalid : isValid a = true) :
    isValid b = true ↔ sumFrom after.length.bodd (cs.map value).reverse % 10 =
      sumFrom after.length.bodd (ds.map value).reverse % 10 := by
  obtain ⟨hleast, hmost, hsum⟩ := (isValid_iff ha).mp hvalid
  have hmapped : (cs.map value).length = (ds.map value).length := by simpa using hlength
  have hexchange := checksum_mod_eq_iff (before.map value) (after.map value) hmapped
  rw [List.length_map] at hexchange
  rw [isValid_iff hb, ← hexchange]
  simp only [List.map_append, List.length_append, ← hlength] at *
  omega

/-- In a valid text, no digit can be mistaken for another unnoticed. -/
theorem isValid_mistaken_iff {a b before after : List Char} {c d : Char}
    (ha : a.filter Char.isDigit = before ++ c :: after)
    (hb : b.filter Char.isDigit = before ++ d :: after) (hvalid : isValid a = true) :
    isValid b = true ↔ c = d := by
  have hc : c.isDigit = true := isDigit_of_mem ha (by simp)
  have hd : d.isDigit = true := isDigit_of_mem hb (by simp)
  rw [isValid_iff_of_exchange [c] [d] ha hb rfl hvalid, ← value_inj hc hd]
  exact share_mod_eq_iff (value_lt hc) (value_lt hd)

/-- In a valid text, neighbours can change places unnoticed if they are alike, or a 0 and a 9. -/
theorem isValid_swapped_iff {a b before after : List Char} {c d : Char}
    (ha : a.filter Char.isDigit = before ++ c :: d :: after)
    (hb : b.filter Char.isDigit = before ++ d :: c :: after) (hvalid : isValid a = true) :
    isValid b = true ↔ c = d ∨ s(c, d) = s('0', '9') := by
  have hc : c.isDigit = true := isDigit_of_mem ha (by simp)
  have hd : d.isDigit = true := isDigit_of_mem hb (by simp)
  have hzero {e : Char} (he : e.isDigit = true) : value e = 0 ↔ e = '0' :=
    value_inj (d := '0') he rfl
  have hnine {e : Char} (he : e.isDigit = true) : value e = 9 ↔ e = '9' :=
    value_inj (d := '9') he rfl
  have hpair : s(c, d) = s('0', '9') ↔ s(value c, value d) = s(0, 9) := by
    rw [Sym2.eq_iff, Sym2.eq_iff, hzero hc, hzero hd, hnine hc, hnine hd]
  rw [isValid_iff_of_exchange [c, d] [d, c] ha hb rfl hvalid, ← value_inj hc hd, hpair]
  -- sums begin with the last digit, so the neighbours stand the other way round in them
  exact eq_comm.trans (share_add_share_mod_eq_iff (value_lt hc) (value_lt hd))

example : isValid "4111 1111 1090 1116".toList = true ∧
    isValid "4111 1111 1900 1116".toList = true := by decide

/-- Whatever the other digits are, there is exactly one digit that makes a text valid. -/
theorem existsUnique_isValid (before after : List Char)
    (hleast : 12 ≤ ((before ++ after).filter Char.isDigit).length)
    (hmost : ((before ++ after).filter Char.isDigit).length ≤ 18) :
    ∃! c, c.isDigit = true ∧ isValid (before ++ c :: after) = true := by
  have hrow {c : Char} (hc : c.isDigit = true) : (before ++ c :: after).filter Char.isDigit =
      before.filter Char.isDigit ++ c :: after.filter Char.isDigit := by
    rw [List.filter_append, List.filter_cons_of_pos hc]
  rw [List.filter_append, List.length_append] at hleast hmost
  obtain ⟨d, hd, hsum⟩ := exists_checksum_mod_eq_zero ((before.filter Char.isDigit).map value)
    ((after.filter Char.isDigit).map value)
  have hdigit : d.digitChar.isDigit = true := Nat.isDigit_digitChar.trans (decide_eq_true hd)
  have hvalue : value d.digitChar = d := Nat.toNat_digitChar_sub_48_of_lt_ten hd
  have hvalid : isValid (before ++ d.digitChar :: after) = true := by
    rw [isValid_iff (hrow hdigit), List.map_append, List.map_cons, hvalue, List.length_append,
      List.length_cons]
    exact ⟨by omega, by omega, hsum⟩
  refine ⟨d.digitChar, ⟨hdigit, hvalid⟩, fun c hc => ?_⟩
  exact ((isValid_mistaken_iff (hrow hdigit) (hrow hc.1) hvalid).mp hc.2).symm

/-! ### Slips -/

/-- The usual slips in a row of digits: one digit is mistaken for another, or two neighbours change
places that are neither alike nor a 0 and a 9. -/
inductive Slip (row other : List Char) : Prop
  | mistaken (before after : List Char) {c d : Char} (hrow : row = before ++ c :: after)
      (hother : other = before ++ d :: after) (hne : c ≠ d)
  | swapped (before after : List Char) {c d : Char} (hrow : row = before ++ c :: d :: after)
      (hother : other = before ++ d :: c :: after) (hne : c ≠ d) (hcaught : s(c, d) ≠ s('0', '9'))

/-- **Slips are caught**: of two texts whose digits differ by a slip, at most one is valid. Only
the digits of a text matter to that, and whatever the others are, there is exactly one digit for
each place that makes them valid. -/
theorem slips_are_caught :
    (∀ a b : List Char, Slip (a.filter Char.isDigit) (b.filter Char.isDigit) →
      ¬ (isValid a = true ∧ isValid b = true)) ∧
    (∀ a b : List Char, a.filter Char.isDigit = b.filter Char.isDigit → isValid a = isValid b) ∧
    ∀ before after : List Char, 12 ≤ ((before ++ after).filter Char.isDigit).length →
      ((before ++ after).filter Char.isDigit).length ≤ 18 →
        ∃! c, c.isDigit = true ∧ isValid (before ++ c :: after) = true := by
  refine ⟨?_, ?_, existsUnique_isValid⟩
  · rintro a b hslip ⟨ha, hb⟩
    cases hslip with
    | mistaken before after hrow hother hne =>
        exact hne ((isValid_mistaken_iff hrow hother ha).mp hb)
    | swapped before after hrow hother hne hcaught =>
        rcases (isValid_swapped_iff hrow hother ha).mp hb with h | h
        · exact hne h
        · exact hcaught h
  · intro a b hrow
    rw [Bool.eq_iff_iff, isValid_iff hrow, isValid_iff rfl]

/-- A card number with a digit mistaken and one with two digits swapped are not valid. The same
number with other separators is, and so is it with one digit that was missing. -/
theorem slips_are_caught_apart :
    let card := "5500-0000-0000-0004".toList
    let mistaken := "5505 0000 0000 0004".toList
    let swapped := "5050/0000/0000 0004".toList
    let plain := "5500000000000004".toList
    isValid card = true ∧
      Slip (card.filter Char.isDigit) (mistaken.filter Char.isDigit) ∧ isValid mistaken = false ∧
      Slip (card.filter Char.isDigit) (swapped.filter Char.isDigit) ∧ isValid swapped = false ∧
      card.filter Char.isDigit = plain.filter Char.isDigit ∧ isValid plain = true ∧
      ∃! c, c.isDigit = true ∧ isValid ("55".toList ++ c :: "0-0000-0000-0004".toList) = true := by
  intro card mistaken swapped plain
  obtain ⟨hslip, hsame, hunique⟩ := slips_are_caught
  have hcard : isValid card = true := by decide
  have hmistaken : Slip (card.filter Char.isDigit) (mistaken.filter Char.isDigit) :=
    .mistaken "550".toList "000000000004".toList (c := '0') (d := '5') (by decide) (by decide)
      (by decide)
  have hswapped : Slip (card.filter Char.isDigit) (swapped.filter Char.isDigit) :=
    .swapped "5".toList "0000000000004".toList (c := '5') (d := '0') (by decide) (by decide)
      (by decide) (by decide)
  have hplain : card.filter Char.isDigit = plain.filter Char.isDigit := by decide
  exact ⟨hcard, hmistaken, by simpa [hcard] using hslip _ _ hmistaken,
    hswapped, by simpa [hcard] using hslip _ _ hswapped,
    hplain, (hsame _ _ hplain).symm.trans hcard, hunique _ _ (by decide) (by decide)⟩

end RunRadar.Filter.Card
