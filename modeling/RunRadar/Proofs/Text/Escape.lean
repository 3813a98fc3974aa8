import Mathlib.Data.String.Basic
import RunRadar.Proofs.Text.FormUrl

/-!
# RunRadar.Proofs.Text.Escape

**Percent escapes** in texts. Reading undoes them and puts one byte for three, so that what is read
is never longer than what is there (`utf8Len_le_of_unescape?`). A text is read as itself exactly if
there is no escape in it (`unescape?_eq_self_iff`), whether or not anybody meant one.

Escapes are read among bytes, but can be looked for among characters: all that belongs to one is
ASCII, and an ASCII byte is all that there is of its character.
-/

namespace RunRadar.Text

/-! ### Bytes of texts -/

/-- An ASCII byte is all that there is of its character. -/
theorem utf8EncodeChar_of_ascii {c : Char} {b : UInt8} (h : b ∈ String.utf8EncodeChar c)
    (hb : b.toNat < 128) : String.utf8EncodeChar c = [b] ∧ Char.ofNat b.toNat = c := by
  have hvalue : ∀ n, (UInt8.ofNat n).toNat = n % 256 := fun n => UInt8.toNat_ofNat'
  rw [String.utf8EncodeChar] at h ⊢
  split at h
  · next hsmall =>
    obtain rfl := List.mem_singleton.mp h
    rw [if_pos hsmall, hvalue, Nat.mod_eq_of_lt (by omega)]
    exact ⟨rfl, Char.ofNat_toNat c⟩
  · split at h
    · simp only [List.mem_cons, List.not_mem_nil, or_false] at h
      rcases h with rfl | rfl <;> rw [hvalue] at hb <;> omega
    · split at h
      · simp only [List.mem_cons, List.not_mem_nil, or_false] at h
        rcases h with rfl | rfl | rfl <;> rw [hvalue] at hb <;> omega
      · simp only [List.mem_cons, List.not_mem_nil, or_false] at h
        rcases h with rfl | rfl | rfl | rfl <;> rw [hvalue] at hb <;> omega

/-- Where an ASCII byte stands among the bytes of a text, its character stands in the text. -/
theorem exists_of_flatMap_utf8EncodeChar {cs : List Char} {b : UInt8} (hb : b.toNat < 128)
    {front back : Bytes} (h : cs.flatMap String.utf8EncodeChar = front ++ b :: back) :
    ∃ before behind, cs = before ++ Char.ofNat b.toNat :: behind ∧
      before.flatMap String.utf8EncodeChar = front ∧
      behind.flatMap String.utf8EncodeChar = back := by
  induction cs generalizing front with
  | nil => simp at h
  | cons c cs ih =>
      rw [List.flatMap_cons] at h
      -- the byte stands behind those of the first character, or is one of them
      rcases List.append_eq_append_iff.mp h with ⟨rest, rfl, hrest⟩ | ⟨rest, hchar, hrest⟩
      · obtain ⟨before, behind, rfl, rfl, rfl⟩ := ih hrest
        exact ⟨c :: before, behind, rfl, List.flatMap_cons, rfl⟩
      · cases rest with
        | nil =>
            obtain ⟨before, behind, rfl, hbefore, rfl⟩ := @ih [] hrest.symm
            rw [List.append_nil] at hchar
            refine ⟨c :: before, behind, rfl, ?_, rfl⟩
            rw [List.flatMap_cons, hbefore, List.append_nil, hchar]
        | cons b' rest =>
            obtain ⟨rfl, rfl⟩ := List.cons.inj hrest
            obtain ⟨hsingle, rfl⟩ := utf8EncodeChar_of_ascii (c := c) (b := b)
              (by rw [hchar]; simp) hb
            rw [hsingle] at hchar
            cases front with
            | nil =>
                obtain rfl : rest = [] := by simpa using hchar
                exact ⟨[], cs, rfl, rfl, rfl⟩
            | cons _ front => simp at hchar

namespace Url

/-! ### Escapes -/

/-- A percent escape stands among characters. -/
def HasEscape (cs : List Char) : Prop :=
  ∃ high low, ['%', high, low] <:+: cs ∧ (hexValue? high).isSome ∧ (hexValue? low).isSome

theorem not_hasEscape_of_not_mem {cs : List Char} (h : '%' ∉ cs) : ¬ HasEscape cs :=
  fun ⟨_, _, hfound, _⟩ => h (hfound.subset List.mem_cons_self)

theorem not_hasEscape_of_short {cs : List Char} (h : cs.length < 3) : ¬ HasEscape cs := by
  rintro ⟨high, low, hfound, -⟩
  exact absurd hfound.length_le (Nat.not_le.mpr h)

theorem hasEscape_cons {c : Char} {cs : List Char} :
    HasEscape (c :: cs) ↔
      (c = '%' ∧ ∃ high low rest, cs = high :: low :: rest ∧ (hexValue? high).isSome ∧
        (hexValue? low).isSome) ∨ HasEscape cs := by
  simp only [HasEscape, List.infix_cons_iff, List.cons_prefix_cons]
  constructor
  · rintro ⟨high, low, ⟨rfl, rest, rfl⟩ | hfound, hhex⟩
    · exact .inl ⟨rfl, high, low, rest, rfl, hhex⟩
    · exact .inr ⟨high, low, hfound, hhex⟩
  · rintro (⟨rfl, high, low, rest, rfl, hhex⟩ | ⟨high, low, hfound, hhex⟩)
    · exact ⟨high, low, .inl ⟨rfl, rest, rfl⟩, hhex⟩
    · exact ⟨high, low, .inr hfound, hhex⟩

/-- The character with the number of a byte. -/
def charOf (b : UInt8) : Char := Char.ofNat b.toNat

theorem length_decodeEscapes_le (bytes : Bytes) :
    (FormUrl.decodeEscapes bytes).length ≤ bytes.length := by
  fun_induction FormUrl.decodeEscapes bytes <;> grind

theorem charOf_eq_percent {b : UInt8} : charOf b = '%' ↔ b = '%'.toUInt8 := by
  refine ⟨fun h => ?_, fun h => h ▸ rfl⟩
  rw [← byteOf_ofNat b]
  exact congrArg byteOf h

/-- Bytes stand for themselves if there is no escape among them, and only then. -/
theorem decodeEscapes_eq_self_iff (bytes : Bytes) :
    FormUrl.decodeEscapes bytes = bytes ↔ ¬ HasEscape (bytes.map charOf) := by
  fun_induction FormUrl.decodeEscapes bytes with
  | case1 => simp [not_hasEscape_of_short]
  | case2 a => simp [not_hasEscape_of_short]
  | case3 a b => simp [not_hasEscape_of_short]
  | case4 a b rest low high hlow hhigh =>
      -- an escape is three bytes for one, and nothing behind it grows
      refine iff_of_false (fun h => ?_) (not_not_intro ?_)
      · have hlength := congrArg List.length h
        have hle := length_decodeEscapes_le rest
        simp only [List.length_cons] at hlength
        omega
      · exact hasEscape_cons.mpr (.inl ⟨rfl, charOf a, charOf b, _, rfl,
          Option.isSome_of_eq_some hhigh, Option.isSome_of_eq_some hlow⟩)
  | case5 a b rest hnone ih =>
      refine (List.cons_inj_right _).trans (ih.trans (not_congr ?_))
      refine (or_iff_right ?_).symm.trans hasEscape_cons.symm
      rintro ⟨-, high, low, _, hcs, hhigh, hlow⟩
      simp only [List.map_cons, List.cons.injEq] at hcs
      obtain ⟨rfl, rfl, -⟩ := hcs
      obtain ⟨high, hhigh⟩ := Option.isSome_iff_exists.mp hhigh
      obtain ⟨low, hlow⟩ := Option.isSome_iff_exists.mp hlow
      exact hnone high low hhigh hlow
  | case6 a b c rest ha ih =>
      refine (List.cons_inj_right _).trans (ih.trans (not_congr ?_))
      refine (or_iff_right ?_).symm.trans hasEscape_cons.symm
      exact fun h => ha (charOf_eq_percent.mp h.1)

/-! ### Escapes of texts -/

theorem toNat_lt_of_hexValue? {c : Char} (h : (hexValue? c).isSome) : c.toNat < 128 := by
  have hle : ∀ {d : Char}, c ≤ d → d.toNat < 128 → c.toNat < 128 := fun hcd hd =>
    Nat.lt_of_le_of_lt (UInt32.le_iff_toNat_le.mp hcd) hd
  unfold hexValue? at h
  split at h
  · next hdigit => exact hle hdigit.2 (by decide)
  · split at h
    · next hlower => exact hle hlower.2 (by decide)
    · split at h
      · next hupper => exact hle hupper.2 (by decide)
      · simp at h

/-- An ASCII character is its own byte. -/
theorem map_charOf_utf8EncodeChar {c : Char} (h : c.toNat < 128) :
    (String.utf8EncodeChar c).map charOf = [c] := by
  have hbyte : (byteOf c).toNat = c.toNat := by
    rw [byteOf, UInt8.toNat_ofNat', Nat.mod_eq_of_lt (by omega)]
  rw [utf8EncodeChar_of_lt h, List.map_singleton, charOf, hbyte, Char.ofNat_toNat]

/-- The first byte of a text, if it is ASCII, is its first character. -/
theorem exists_cons_of_flatMap {cs : List Char} {b : UInt8} (hb : (charOf b).toNat < 128)
    {back : Bytes} (h : cs.flatMap String.utf8EncodeChar = b :: back) :
    ∃ behind, cs = charOf b :: behind ∧ behind.flatMap String.utf8EncodeChar = back := by
  rw [charOf, toNat_ofNat] at hb
  obtain ⟨before, behind, rfl, hbefore, hbehind⟩ :=
    exists_of_flatMap_utf8EncodeChar hb (h.trans (List.nil_append _).symm)
  cases before with
  | nil => exact ⟨behind, rfl, hbehind⟩
  | cons c _ =>
      rw [List.flatMap_cons, List.append_eq_nil_iff] at hbefore
      exact absurd hbefore.1 String.utf8EncodeChar_ne_nil

theorem hasEscape_flatMap (cs : List Char) :
    HasEscape ((cs.flatMap String.utf8EncodeChar).map charOf) ↔ HasEscape cs := by
  constructor
  · rintro ⟨high, low, ⟨front, back, h⟩, hhigh, hlow⟩
    rw [eq_comm, List.append_assoc, List.map_eq_append_iff] at h
    obtain ⟨frontBytes, bytes, hbytes, -, h⟩ := h
    simp only [List.cons_append, List.nil_append, List.map_eq_cons_iff] at h
    obtain ⟨b, _, rfl, hpercent, b', _, rfl, rfl, b'', _, rfl, rfl, -⟩ := h
    have hascii : b.toNat < 128 := by rw [charOf_eq_percent.mp hpercent]; decide
    obtain ⟨before, _, rfl, -, hdigits⟩ := exists_of_flatMap_utf8EncodeChar hascii hbytes
    obtain ⟨_, rfl, hdigit⟩ := exists_cons_of_flatMap (toNat_lt_of_hexValue? hhigh) hdigits
    obtain ⟨rest, rfl, -⟩ := exists_cons_of_flatMap (toNat_lt_of_hexValue? hlow) hdigit
    refine ⟨_, _, ⟨before, rest, ?_⟩, hhigh, hlow⟩
    rw [← hpercent, List.append_assoc]
    rfl
  · rintro ⟨high, low, ⟨front, back, rfl⟩, hhigh, hlow⟩
    refine ⟨high, low, ⟨(front.flatMap String.utf8EncodeChar).map charOf,
      (back.flatMap String.utf8EncodeChar).map charOf, ?_⟩, hhigh, hlow⟩
    simp only [List.flatMap_append, List.map_append, List.flatMap_cons, List.flatMap_nil,
      List.append_nil, map_charOf_utf8EncodeChar (c := '%') (by decide),
      map_charOf_utf8EncodeChar (toNat_lt_of_hexValue? hhigh),
      map_charOf_utf8EncodeChar (toNat_lt_of_hexValue? hlow), List.cons_append, List.nil_append]

instance decidableHasEscape (cs : List Char) : Decidable (HasEscape cs) :=
  decidable_of_iff (¬ FormUrl.decodeEscapes (toBytes (String.ofList cs)) =
    toBytes (String.ofList cs)) (by
      rw [decodeEscapes_eq_self_iff, not_not, toBytes_ofList_eq_flatMap, hasEscape_flatMap])

/-! ### Reading -/

/-- Of two beginnings of a text, the one that takes fewer bytes is a beginning of the other. -/
theorem prefix_of_utf8Len_le {cs ds whole : List Char} (hcs : cs <+: whole) (hds : ds <+: whole)
    (h : String.utf8Len cs ≤ String.utf8Len ds) : cs <+: ds := by
  rcases List.prefix_or_prefix_of_prefix hcs hds with hbegin | ⟨rest, rfl⟩
  · exact hbegin
  · rw [String.utf8Len_append] at h
    obtain rfl : rest = [] := String.utf8Len_eq_zero.mp (by omega)
    simp

/-- The text that characters stand for, once the escapes among them are undone. -/
def unescape? (cs : List Char) : Option String :=
  String.fromUTF8? ⟨(FormUrl.decodeEscapes (toBytes (String.ofList cs))).toArray⟩

theorem unescape?_eq_some_iff {cs : List Char} {text : String} :
    unescape? cs = some text ↔
      toBytes text = FormUrl.decodeEscapes (toBytes (String.ofList cs)) :=
  fromUTF8?_eq_some_iff

/-- Nothing longer is read than there is. -/
theorem utf8Len_le_of_unescape? {cs : List Char} {text : String} (h : unescape? cs = some text) :
    String.utf8Len text.toList ≤ String.utf8Len cs := by
  have hlength : ∀ text, (toBytes text).length = text.utf8ByteSize := fun _ => rfl
  rw [String.utf8Len_toList, ← String.utf8ByteSize_ofList, ← hlength, ← hlength,
    unescape?_eq_some_iff.mp h]
  exact length_decodeEscapes_le _

/-- A text is read as itself if there is no escape in it, and only then. -/
theorem unescape?_eq_self_iff {text : String} :
    unescape? text.toList = some text ↔ ¬ HasEscape text.toList := by
  rw [unescape?_eq_some_iff, String.ofList_toList, eq_comm, decodeEscapes_eq_self_iff,
    ← String.ofList_toList (s := text), toBytes_ofList_eq_flatMap, hasEscape_flatMap,
    String.ofList_toList]

end Url

end RunRadar.Text
