import Harvest.Proofs.Text.Bytes
import Harvest.Proofs.Text.Split
import Harvest.Url.Form

/-!
Decoding a form finds the fields that were encoded. What stands for one byte is read back as this byte whatever
follows it, and none of it is a sign that separates fields or names from values.
-/

namespace Harvest.Url

theorem upperHex_lt : ∀ n < 16, (upperHex n).toNat < 0x80 := by decide

theorem hexDigit?_upperHex :
    ∀ n < 16, hexDigit? (UInt8.ofNat (upperHex n).toNat) = some (UInt8.ofNat n) := by decide

theorem decodeBytes_cons {b : UInt8} (other : b ≠ 37) (rest : List UInt8) :
    decodeBytes (b :: rest) = b :: decodeBytes rest := by
  rw [decodeBytes]
  rintro a c rest ⟨⟩
  exact absurd rfl other

section Digits

variable (b : UInt8)

theorem high_lt : b.toNat / 16 < 16 := Nat.div_lt_of_lt_mul b.toNat_lt

theorem low_lt : b.toNat % 16 < 16 := Nat.mod_lt _ (by decide)

/-- The bytes of the text that stands for `b`. -/
theorem encodeByte_bytes :
    (encodeByte b).flatMap String.utf8EncodeChar =
      [37, UInt8.ofNat (upperHex (b.toNat / 16)).toNat, UInt8.ofNat (upperHex (b.toNat % 16)).toNat] := by
  simp only [encodeByte, List.flatMap_cons, List.flatMap_nil,
    Text.utf8EncodeChar_of_ascii (upperHex_lt _ (high_lt b)),
    Text.utf8EncodeChar_of_ascii (upperHex_lt _ (low_lt b))]
  rfl

theorem decodeBytes_encodeByte (rest : List UInt8) :
    decodeBytes ((encodeByte b).flatMap String.utf8EncodeChar ++ rest) = b :: decodeBytes rest := by
  have whole : UInt8.ofNat (b.toNat / 16) * 16 + UInt8.ofNat (b.toNat % 16) = b := by
    have bound := b.toNat_lt
    apply UInt8.toNat_inj.1
    simp
    omega
  simp only [encodeByte_bytes, List.cons_append, List.nil_append, decodeBytes,
    hexDigit?_upperHex _ (high_lt b), hexDigit?_upperHex _ (low_lt b), whole]

end Digits

namespace Form

/-- The signs of a form, which no plain byte is. -/
def signs : List Nat := [0x25, 0x26, 0x2B, 0x3D]

theorem bounds_of_isPlain {b : UInt8} (plain : isPlain b = true) : b.toNat < 0x80 ∧ b.toNat ∉ signs := by
  simp [isPlain, UInt8.le_iff_toNat_le, ← UInt8.toNat_inj] at plain
  simp [signs]
  omega

theorem spaceOfPlus_upperHex : ∀ n < 16,
    spaceOfPlus (UInt8.ofNat (upperHex n).toNat) = UInt8.ofNat (upperHex n).toNat := by decide

theorem char_of_isPlain {b : UInt8} (plain : isPlain b = true) : (Char.ofNat b.toNat).toNat = b.toNat := by
  have same : ∀ n < 0x80, (Char.ofNat n).toNat = n := by decide
  exact same _ (bounds_of_isPlain plain).1

/-- The bytes of what stands for `b`, once a plus sign is a space again. -/
def spelled (b : UInt8) : List UInt8 := ((encodeByte b).flatMap String.utf8EncodeChar).map spaceOfPlus

theorem decodeBytes_spelled (b : UInt8) (rest : List UInt8) :
    decodeBytes (spelled b ++ rest) = b :: decodeBytes rest := by
  unfold spelled encodeByte
  split
  · rename_i plain
    obtain ⟨ascii, other⟩ := bounds_of_isPlain plain
    have same := char_of_isPlain plain
    have small : (Char.ofNat b.toNat).toNat < 0x80 := by rwa [same]
    have no_plus : b ≠ 0x2B := by rintro rfl; exact other (by decide)
    have no_percent : b ≠ 37 := by rintro rfl; exact other (by decide)
    have kept : spaceOfPlus b = b := if_neg no_plus
    rw [List.flatMap_singleton, Text.utf8EncodeChar_of_ascii small, same, UInt8.ofNat_toNat,
      List.map_singleton, kept]
    exact decodeBytes_cons no_percent rest
  · split
    · rename_i space
      subst space
      exact decodeBytes_cons (by decide) rest
    · have kept : ((Url.encodeByte b).flatMap String.utf8EncodeChar).map spaceOfPlus =
          (Url.encodeByte b).flatMap String.utf8EncodeChar := by
        rw [encodeByte_bytes]
        simp only [List.map_cons, List.map_nil, spaceOfPlus_upperHex _ (high_lt b),
          spaceOfPlus_upperHex _ (low_lt b)]
        rfl
      rw [kept]
      exact decodeBytes_encodeByte b rest

theorem decodeBytes_flatMap_spelled (bytes : List UInt8) : decodeBytes (bytes.flatMap spelled) = bytes := by
  induction bytes with
  | nil => rfl
  | cons b bytes ih => rw [List.flatMap_cons, decodeBytes_spelled, ih]

theorem decodeText_encodeText (s : String) : decodeText (encodeText s).toList = some s := by
  have bytes : ((s.toUTF8.toList.flatMap encodeByte).flatMap String.utf8EncodeChar).map spaceOfPlus =
      s.toUTF8.toList.flatMap spelled := by
    rw [List.flatMap_assoc, List.map_flatMap]
    rfl
  simp only [decodeText, encodeText, String.toList_ofList, Text.toList_toUTF8_ofList, bytes,
    decodeBytes_flatMap_spelled, Text.fromUTF8?_toList]

theorem separator_not_mem_encodeByte {c : Char} (separates : c ∈ ['&', '=']) (b : UInt8) : c ∉ encodeByte b := by
  have separators : c = '&' ∨ c = '=' := by simpa using separates
  unfold encodeByte
  split
  · rename_i plain
    have sign : c.toNat ∈ signs := by rcases separators with rfl | rfl <;> decide
    have same := char_of_isPlain plain
    rw [List.mem_singleton]
    rintro rfl
    exact (bounds_of_isPlain plain).2 (same ▸ sign)
  · split
    · rcases separators with rfl | rfl <;> decide
    · have digits : ∀ n < 16, c ≠ upperHex n := by rcases separators with rfl | rfl <;> decide
      have percent : c ≠ '%' := by rcases separators with rfl | rfl <;> decide
      simp [Url.encodeByte, percent, digits _ (high_lt b), digits _ (low_lt b)]

theorem separator_not_mem_encodeText {c : Char} (separates : c ∈ ['&', '=']) (s : String) :
    c ∉ (encodeText s).toList := by
  rw [encodeText, String.toList_ofList]
  intro member
  obtain ⟨b, -, inside⟩ := List.mem_flatMap.1 member
  exact separator_not_mem_encodeByte separates b inside

theorem toList_encodeField (f : String × String) :
    (encodeField f).toList = (encodeText f.1).toList ++ '=' :: (encodeText f.2).toList := by
  simp [encodeField]

theorem decodeField_encodeField (f : String × String) : decodeField (encodeField f).toList = some f := by
  have absent := separator_not_mem_encodeText (c := '=') (by decide) f.1
  have cut := Text.cutFirst_singleton (b := (encodeText f.2).toList) absent
  simp only [decodeField, toList_encodeField, cut, Option.getD_some, decodeText_encodeText]
  rfl

theorem ampersand_not_mem_encodeField (f : String × String) : '&' ∉ (encodeField f).toList := by
  have name := separator_not_mem_encodeText (c := '&') (by decide) f.1
  have value := separator_not_mem_encodeText (c := '&') (by decide) f.2
  simp [toList_encodeField, name, value]

theorem pieces_encode {fields : List (String × String)} (nonempty : fields ≠ []) :
    Text.pieces ['&'] (encode fields).toList = fields.map fun f => (encodeField f).toList := by
  have sign : "&".toList = ['&'] := rfl
  have apart : ∀ piece ∈ fields.map fun f => (encodeField f).toList, '&' ∉ piece := by
    intro piece member
    obtain ⟨f, -, rfl⟩ := List.mem_map.1 member
    exact ampersand_not_mem_encodeField f
  rw [Text.pieces_eq_splitOn, encode, String.toList_intercalate, sign, List.map_map]
  exact List.splitOn_intercalate '&' apart (by simpa using nonempty)

theorem mapM_decodeField (fields : List (String × String)) :
    (fields.map fun f => (encodeField f).toList).mapM decodeField = some fields := by
  induction fields with
  | nil => rfl
  | cons f fields ih =>
    rw [List.map_cons, List.mapM_cons, decodeField_encodeField, ih]
    rfl

theorem decode_encode (fields : List (String × String)) : decode (encode fields) = some fields := by
  cases fields with
  | nil =>
    have empty : Text.pieces ['&'] (encode []).toList = [[]] := by
      rw [Text.pieces_eq_splitOn]
      rfl
    rw [decode, empty]
    rfl
  | cons f fields =>
    have kept : ∀ piece ∈ (f :: fields).map fun f => (encodeField f).toList, piece ≠ [] := by
      intro piece member
      obtain ⟨f, -, rfl⟩ := List.mem_map.1 member
      simp [toList_encodeField]
    rw [decode, pieces_encode (List.cons_ne_nil f fields), List.filter_eq_self.2 (by simpa using kept)]
    exact mapM_decodeField (f :: fields)

end Form

end Harvest.Url
