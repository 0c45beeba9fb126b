import Harvest.Translation.Request
import Mathlib.Data.List.Infix

/-!
What a signature binds. The parts of the signed text follow one another with nothing in between, so a text that ends in
digits runs into its salt. Text and salt can be told from it all the same as long as no salt's numeral is the end of
another one's, and the salts that are drawn have numerals of one length.
-/

namespace Harvest.Translation

def Drawn (salt : Nat) : Prop := saltLow ≤ salt ∧ salt < saltHigh

instance (salt : Nat) : Decidable (Drawn salt) := inferInstanceAs (Decidable (_ ∧ _))

/-- Whether a signed text with one of the salts determines both the text and the salt. -/
def Binding (c : Credentials) (salts : Nat → Prop) : Prop :=
  ∀ text text' salt salt', salts salt → salts salt' →
    signedText c text salt = signedText c text' salt' → text = text' ∧ salt = salt'

variable {c : Credentials} {salts : Nat → Prop} {text text' : String} {salt salt' : Nat}

theorem signedText_eq_iff : signedText c text salt = signedText c text' salt' ↔
    text.toList ++ Nat.toDigits 10 salt = text'.toList ++ Nat.toDigits 10 salt' := by
  rw [← String.toList_inj]
  simp only [signedText, String.toList_append, Nat.toString_eq_ofList_toDigits, String.toList_ofList]
  rw [List.append_left_inj, List.append_assoc, List.append_assoc, List.append_right_inj]

/-- Salts can be told from the text in front of them just if no numeral of theirs is the end of another one. -/
theorem binding_iff : Binding c salts ↔
    ∀ salt salt', salts salt → salts salt' → Nat.toDigits 10 salt <:+ Nat.toDigits 10 salt' → salt = salt' := by
  constructor
  · rintro binding salt salt' drawn drawn' ⟨front, whole⟩
    -- the digits that the longer numeral has in front are taken as the text before the shorter one
    have same : signedText c (String.ofList front) salt = signedText c "" salt' := by
      rw [signedText_eq_iff, String.toList_ofList, whole]
      rfl
    exact (binding _ _ _ _ drawn drawn' same).2
  · intro apart text text' salt salt' drawn drawn' same
    rw [signedText_eq_iff] at same
    have ends := List.suffix_append text.toList (Nat.toDigits 10 salt)
    have ends' := List.suffix_append text'.toList (Nat.toDigits 10 salt')
    rw [← same] at ends'
    obtain rfl : salt = salt' := by
      rcases List.suffix_or_suffix_of_suffix ends ends' with within | within
      · exact apart _ _ drawn drawn' within
      · exact (apart _ _ drawn' drawn within).symm
    exact ⟨String.toList_inj.1 (List.append_cancel_right same), rfl⟩

example : signedText ⟨"app", "key"⟩ "a3" 33333 = signedText ⟨"app", "key"⟩ "a33" 3333 := by decide

theorem binding_of_length {width : Nat} (each : ∀ salt, salts salt → (Nat.toDigits 10 salt).length = width) :
    Binding c salts := by
  rw [binding_iff]
  intro salt salt' drawn drawn' within
  have lengths : (Nat.toDigits 10 salt).length = (Nat.toDigits 10 salt').length :=
    (each salt drawn).trans (each salt' drawn').symm
  rw [← Nat.ofDigitChars_ten_toDigits (n := salt), within.eq_of_length lengths, Nat.ofDigitChars_ten_toDigits]

theorem length_toDigits_of_drawn (drawn : Drawn salt) : (Nat.toDigits 10 salt).length = 5 := by
  obtain ⟨low, high⟩ := drawn
  have more : ¬(Nat.toDigits 10 salt).length ≤ 4 := by
    rw [Nat.length_toDigits_le_iff (by decide) (by decide)]
    simp only [saltLow] at low
    omega
  have enough : (Nat.toDigits 10 salt).length ≤ 5 := by
    rw [Nat.length_toDigits_le_iff (by decide) (by decide)]
    simp only [saltHigh] at high
    omega
  omega

/-- The signature is the fingerprint of a text that no other text to translate leads to, and no other salt of those
that are drawn. -/
theorem sign_binds_drawn (c : Credentials) (text text' : String) (drawn : Drawn salt) (drawn' : Drawn salt') :
    sign c text salt = Digest.fingerprint (signedText c text salt) ∧
      (signedText c text salt = signedText c text' salt' ↔ text = text' ∧ salt = salt') := by
  refine ⟨rfl, ?_⟩
  have binding : Binding c Drawn := binding_of_length fun _ => length_toDigits_of_drawn
  constructor
  · exact binding text text' salt salt' drawn drawn'
  · rintro ⟨rfl, rfl⟩
    rfl

/-- A text that ends in the digit that its salt begins with. -/
theorem sign_binds_drawn_after_digit :
    let c : Credentials := ⟨"app", "key"⟩
    Drawn 33333 ∧ Drawn 43333 ∧ sign c "a3" 33333 = Digest.fingerprint "appa333333key" ∧
      signedText c "a3" 33333 ≠ signedText c "a" 43333 := by
  intro c
  have drawn : Drawn 33333 := by decide
  have drawn' : Drawn 43333 := by decide
  have written : signedText c "a3" 33333 = "appa333333key" := by decide
  obtain ⟨signature, apart⟩ := sign_binds_drawn c "a3" "a" drawn drawn'
  exact ⟨drawn, drawn', written ▸ signature, mt apart.1 (by decide)⟩

end Harvest.Translation
