import Mathlib.Data.List.Basic
import Mathlib.Data.List.TakeWhile
import RunRadar.Text.FormUrl

/-!
# RunRadar.Proofs.Text.FormUrl

Reading **undoes the form encoding**: what is written for a text is read as one name without a
value, and the name is the text (`decode_encode`). Written texts hold no ampersand and no equals
sign, so there is nothing at which they are taken apart. In the single piece that is left, every
byte comes back from what was written for it, whether that is the byte, a plus or an escape.

All of this is about bytes. Written texts are ASCII, so each character is one byte.
-/

namespace RunRadar.Text

/-! ### Texts as bytes -/

/-- Well-formed bytes are those of one text. -/
theorem fromUTF8?_eq_some_iff {bytes : Bytes} {text : String} :
    String.fromUTF8? ⟨bytes.toArray⟩ = some text ↔ toBytes text = bytes := by
  constructor
  · intro h
    rw [String.fromUTF8?] at h
    split at h
    · cases h
      rfl
    · simp at h
  · rintro rfl
    have hbytes : (⟨(toBytes text).toArray⟩ : ByteArray) = text.toByteArray := by
      rw [toBytes, Array.toArray_toList]
    rw [hbytes, String.fromUTF8?, dif_pos text.isValidUTF8]
    rfl

/-- The bytes of a text encode that text. -/
theorem ofBytesLossy_toBytes (text : String) : ofBytesLossy (toBytes text) = text := by
  rw [ofBytesLossy, fromUTF8?_eq_some_iff.mpr rfl]

/-- The byte of an ASCII character. -/
def byteOf (c : Char) : UInt8 := UInt8.ofNat c.toNat

/-- The number of a byte is that of a character. -/
theorem toNat_ofNat (b : UInt8) : (Char.ofNat b.toNat).toNat = b.toNat := by
  have hvalid : b.toNat.isValidChar := .inl (Nat.lt_trans b.toNat_lt (by decide))
  rw [Char.ofNat, dif_pos hvalid]
  rfl

/-- A byte is that of the character with its number. -/
theorem byteOf_ofNat (b : UInt8) : byteOf (Char.ofNat b.toNat) = b := by
  rw [byteOf, toNat_ofNat, UInt8.ofNat_toNat]

/-- An ASCII character has one byte. -/
theorem utf8EncodeChar_of_lt {c : Char} (h : c.toNat < 128) :
    String.utf8EncodeChar c = [byteOf c] := by
  have hsize : c.utf8Size = 1 := by
    rw [Char.utf8Size_eq_one_iff, UInt32.le_iff_toNat_le]
    exact Nat.le_of_lt_succ h
  rw [String.utf8EncodeChar_eq_singleton hsize]
  rfl

/-- The bytes of a text are those of its characters. -/
theorem toBytes_ofList_eq_flatMap (cs : List Char) :
    toBytes (String.ofList cs) = cs.flatMap String.utf8EncodeChar := by
  rw [toBytes, String.toByteArray_ofList, List.utf8Encode, List.toList_data_toByteArray]

/-- An ASCII text has one byte for each character. -/
theorem toBytes_ofList {cs : List Char} (h : ∀ c ∈ cs, c.toNat < 128) :
    toBytes (String.ofList cs) = cs.map byteOf := by
  rw [toBytes_ofList_eq_flatMap, ← List.flatMap_singleton' (cs.map byteOf), List.flatMap_map]
  exact List.flatMap_congr fun c hc => utf8EncodeChar_of_lt (h c hc)

namespace FormUrl

/-! ### What is written for a byte -/

/-- Plain bytes are ASCII. -/
theorem lt_of_isPlain {b : UInt8} (h : isPlain b = true) : b.toNat < 128 := by
  simp only [isPlain, Bool.or_eq_true, Bool.and_eq_true, decide_eq_true_eq,
    UInt8.le_iff_toNat_le, ← UInt8.toNat_inj] at h
  rcases h with (((((⟨-, h⟩ | ⟨-, h⟩) | ⟨-, h⟩) | h) | h) | h) | h
  · exact Nat.lt_of_le_of_lt h (by decide)
  · exact Nat.lt_of_le_of_lt h (by decide)
  · exact Nat.lt_of_le_of_lt h (by decide)
  all_goals exact Nat.lt_of_le_of_lt (Nat.le_of_eq h) (by decide)

/-- Plain bytes have no part in the encoding. -/
theorem ne_of_isPlain {a b : UInt8} (h : isPlain b = true) (ha : isPlain a = false) : b ≠ a := by
  rintro rfl
  exact absurd h (by simp [ha])

/-- Characters written for a byte are ASCII, and none is where a text is taken apart. -/
theorem encodeByte_chars {b : UInt8} {c : Char} (h : c ∈ encodeByte b) :
    c.toNat < 128 ∧ byteOf c ≠ '&'.toUInt8 ∧ byteOf c ≠ '='.toUInt8 := by
  have hdigit : ∀ n < 16, (upperHexDigit n).toNat < 128 ∧
      byteOf (upperHexDigit n) ≠ '&'.toUInt8 ∧ byteOf (upperHexDigit n) ≠ '='.toUInt8 := by decide
  have hb := b.toNat_lt
  unfold encodeByte at h
  split at h
  · next hplain =>
      obtain rfl := List.mem_singleton.mp h
      rw [byteOf_ofNat, toNat_ofNat]
      exact ⟨lt_of_isPlain hplain, ne_of_isPlain hplain (by decide),
        ne_of_isPlain hplain (by decide)⟩
  · split at h
    · obtain rfl := List.mem_singleton.mp h
      decide
    · simp only [List.mem_cons, List.not_mem_nil, or_false] at h
      rcases h with rfl | rfl | rfl
      · decide
      · exact hdigit _ (by omega)
      · exact hdigit _ (by omega)

/-- The bytes written for a text. -/
theorem toBytes_encode (text : String) :
    toBytes (encode text) = ((toBytes text).flatMap encodeByte).map byteOf := by
  refine toBytes_ofList fun c hc => ?_
  obtain ⟨b, -, hc⟩ := List.mem_flatMap.mp hc
  exact (encodeByte_chars hc).1

/-! ### What is read for it -/

/-- A space for a plus, as names and values are read. -/
def unplus (b : UInt8) : UInt8 := if b = '+'.toUInt8 then ' '.toUInt8 else b

/-- A byte that begins no escape is itself. -/
theorem decodeEscapes_cons {a : UInt8} (h : a ≠ '%'.toUInt8) (rest : Bytes) :
    decodeEscapes (a :: rest) = a :: decodeEscapes rest := by
  match rest with
  | [] => rfl
  | [_] => rfl
  | _ :: _ :: _ => rw [decodeEscapes, if_neg h]

/-- A byte is read from its escape. -/
theorem decodeEscapes_escape (b : UInt8) (rest : Bytes) :
    decodeEscapes ('%'.toUInt8 :: byteOf (upperHexDigit (b.toNat / 16)) ::
      byteOf (upperHexDigit (b.toNat % 16)) :: rest) = b :: decodeEscapes rest := by
  have hb := b.toNat_lt
  have hdigit : ∀ n < 16,
      hexValue? (Char.ofNat (byteOf (upperHexDigit n)).toNat) = some n := by decide
  rw [decodeEscapes, if_pos rfl, hdigit _ (by omega), hdigit _ (by omega)]
  have hvalue : b.toNat / 16 * 16 + b.toNat % 16 = b.toNat := Nat.div_add_mod' _ _
  simp only [hvalue, UInt8.ofNat_toNat]

/-- A byte is read from what is written for it. -/
theorem decodeEscapes_encodeByte (b : UInt8) (rest : Bytes) :
    decodeEscapes ((encodeByte b).map (unplus ∘ byteOf) ++ rest) = b :: decodeEscapes rest := by
  have hb := b.toNat_lt
  have hdigit : ∀ n < 16, unplus (byteOf (upperHexDigit n)) = byteOf (upperHexDigit n) := by decide
  unfold encodeByte
  split
  · next hplain =>
      have hplus : unplus b = b := if_neg (ne_of_isPlain hplain (by decide))
      simp only [List.map_cons, List.map_nil, Function.comp_apply, byteOf_ofNat, hplus,
        List.cons_append, List.nil_append]
      exact decodeEscapes_cons (ne_of_isPlain hplain (by decide)) rest
  · split
    · next hspace =>
        subst hspace
        exact decodeEscapes_cons (by decide) rest
    · have hhigh := hdigit (b.toNat / 16) (by omega)
      have hlow := hdigit (b.toNat % 16) (by omega)
      simp only [List.map_cons, List.map_nil, Function.comp_apply, hhigh, hlow, List.cons_append,
        List.nil_append]
      exact decodeEscapes_escape b rest

/-- Bytes are read from what is written for them. -/
theorem decodeEscapes_flatMap_encodeByte (bytes : Bytes) :
    decodeEscapes ((bytes.flatMap encodeByte).map (unplus ∘ byteOf)) = bytes := by
  induction bytes with
  | nil => rfl
  | cons b bytes ih => rw [List.flatMap_cons, List.map_append, decodeEscapes_encodeByte, ih]

/-- A text is read from the bytes that are written for it. -/
theorem decodePiece_encode (text : String) : decodePiece (toBytes (encode text)) = text := by
  rw [decodePiece, toBytes_encode, List.map_map]
  exact (congrArg ofBytesLossy (decodeEscapes_flatMap_encodeByte _)).trans
    (ofBytesLossy_toBytes text)

/-! ### Pieces -/

/-- A text without separators is one piece. -/
theorem split_eq_singleton {separator : UInt8} {bytes : Bytes} (h : ∀ b ∈ bytes, b ≠ separator) :
    split separator bytes = [bytes] := by
  induction bytes with
  | nil => rfl
  | cons b bytes ih =>
      obtain ⟨hb, hbytes⟩ := List.forall_mem_cons.mp h
      simp only [split, ih hbytes, if_neg hb]

/-- A piece without an equals sign is a name. -/
theorem decodePair_eq_name {piece : Bytes} (h : ∀ b ∈ piece, b ≠ '='.toUInt8) :
    decodePair piece = (decodePiece piece, "") := by
  have hname : ∀ b ∈ piece, (b != '='.toUInt8) = true := fun b hb => bne_iff_ne.mpr (h b hb)
  rw [decodePair, List.takeWhile_eq_self_iff.mpr hname, List.dropWhile_eq_nil_iff.mpr hname]
  exact congrArg (decodePiece piece, ·) (ofBytesLossy_toBytes "")

/-- The written form of a text is read as one name, which is the text. -/
theorem decode_encode {text : String} (h : text ≠ "") : decode (encode text) = [(text, "")] := by
  have hbytes : ∀ b ∈ toBytes (encode text), b ≠ '&'.toUInt8 ∧ b ≠ '='.toUInt8 := by
    intro b hb
    rw [toBytes_encode, List.mem_map] at hb
    obtain ⟨c, hc, rfl⟩ := hb
    obtain ⟨b, -, hc⟩ := List.mem_flatMap.mp hc
    exact (encodeByte_chars hc).2
  have hne : toBytes (encode text) ≠ [] := by
    intro hnil
    have htext := decodePiece_encode text
    rw [hnil] at htext
    exact h (htext.symm.trans (ofBytesLossy_toBytes ""))
  rw [decode, split_eq_singleton fun b hb => (hbytes b hb).1]
  simp only [List.filter_cons, decide_not, hne, decide_false, Bool.not_false, if_true,
    List.filter_nil, List.map_cons, List.map_nil, decodePair_eq_name fun b hb => (hbytes b hb).2,
    decodePiece_encode]

end FormUrl

end RunRadar.Text
