/-!
The bytes of a text, and the text of its bytes.
-/

namespace Harvest.Text

theorem toList_loop_eq (bytes : ByteArray) (i : Nat) (r : List UInt8) :
    ByteArray.toList.loop bytes i r = r.reverse ++ bytes.data.toList.drop i := by
  induction i, r using ByteArray.toList.loop.induct bytes with
  | case1 i r inside ih =>
    have next : bytes.data.toList.drop i = bytes.get! i :: bytes.data.toList.drop (i + 1) := by
      have bound : i < bytes.data.toList.length := by simpa using inside
      rw [List.drop_eq_getElem_cons bound, Array.getElem_toList]
      congr 1
      exact (getElem!_pos bytes.data i (by simpa using inside)).symm
    rw [ByteArray.toList.loop, if_pos inside, ih, next]
    simp
  | case2 i r outside =>
    have done : bytes.data.toList.drop i = [] := List.drop_eq_nil_of_le (by simpa using outside)
    rw [ByteArray.toList.loop, if_neg outside, done, List.append_nil]

theorem byteArray_toList (bytes : ByteArray) : bytes.toList = bytes.data.toList :=
  toList_loop_eq bytes 0 []

theorem toList_toUTF8_ofList (cs : List Char) :
    (String.ofList cs).toUTF8.toList = cs.flatMap String.utf8EncodeChar := by
  rw [byteArray_toList, String.toUTF8_eq_toByteArray, String.toByteArray_ofList, List.utf8Encode,
    List.toList_data_toByteArray]

theorem utf8EncodeChar_of_ascii {c : Char} (ascii : c.toNat < 0x80) :
    String.utf8EncodeChar c = [UInt8.ofNat c.toNat] := by
  have low : c.val.toNat ≤ 0x7f := Nat.le_of_lt_succ ascii
  simp only [String.utf8EncodeChar, low, if_true]
  rfl

/-- What holds of every code point below 128 holds of every character in ASCII. -/
theorem forall_ascii {p : Char → Prop} (all : ∀ n < 128, p (Char.ofNat n)) (c : Char) (ascii : c.toNat < 128) :
    p c := by
  have here := all c.toNat ascii
  rwa [Char.ofNat_toNat] at here

/-- What is found of each character of a list holds of all of them. -/
theorem forall_chars {p : Char → Prop} [DecidablePred p] {cs : List Char} (each : cs.all (p ·) = true) :
    ∀ c ∈ cs, p c := by
  simpa using each

theorem fromUTF8?_toUTF8 (s : String) : String.fromUTF8? s.toUTF8 = some s := by
  unfold String.fromUTF8?
  exact dif_pos s.isValidUTF8

theorem fromUTF8?_toList (s : String) : String.fromUTF8? ⟨s.toUTF8.toList.toArray⟩ = some s := by
  rw [byteArray_toList, Array.toArray_toList]
  exact fromUTF8?_toUTF8 s

end Harvest.Text
