import Harvest.Proofs.Url.Form
import Harvest.Url.Path
import Mathlib.Data.Char

/-!
The characters of the encoded parts of a URL: those that were there and need no code, and the percent sign and the
digits of the codes.
-/

namespace Harvest.Url

variable {set : Char → Bool} {cs : List Char} {c : Char}

/-- The characters of codes. -/
def codeChars : List Char :=
  ['%', '0', '1', '2', '3', '4', '5', '6', '7', '8', '9', 'A', 'B', 'C', 'D', 'E', 'F']

theorem upperHex_mem : ∀ n < 16, upperHex n ∈ codeChars := by decide

theorem mem_encodeByte {b : UInt8} (member : c ∈ encodeByte b) : c ∈ codeChars := by
  simp only [encodeByte, List.mem_cons, List.not_mem_nil, or_false] at member
  rcases member with rfl | rfl | rfl
  · exact List.mem_cons_self
  · exact upperHex_mem _ (high_lt b)
  · exact upperHex_mem _ (low_lt b)

theorem mem_encode (member : c ∈ encode set cs) : c ∈ cs ∧ set c = false ∨ c ∈ codeChars := by
  obtain ⟨d, source, member⟩ := List.mem_flatMap.1 member
  split at member
  · obtain ⟨b, _, member⟩ := List.mem_flatMap.1 member
    exact .inr (mem_encodeByte member)
  · rename_i plain
    obtain rfl := List.mem_singleton.1 member
    exact .inl ⟨source, by simpa using plain⟩

/-- What holds of the characters that need no code and of those of codes holds of all that is written. -/
theorem forall_mem_encode {p : Char → Prop} (plain : ∀ c ∈ cs, set c = false → p c) (codes : ∀ c ∈ codeChars, p c) :
    ∀ c ∈ encode set cs, p c := by
  intro c member
  rcases mem_encode member with ⟨source, free⟩ | code
  · exact plain c source free
  · exact codes c code

theorem printed_of_not_control (free : inControls c = false) (other : c ≠ ' ') : ' ' < c := by
  have above : ¬c.toNat < 0x20 := by
    intro below
    simp [inControls, below] at free
  refine lt_of_le_of_ne ?_ (Ne.symm other)
  exact not_lt.1 fun below => above below

theorem printed_of_inFragment (free : inFragment c = false) : ' ' < c := by
  simp only [inFragment, Bool.or_eq_false_iff] at free
  refine printed_of_not_control free.1 ?_
  rintro rfl
  exact absurd free.2 (by decide)

theorem printed_of_inPath (free : inPath c = false) : ' ' < c :=
  printed_of_inFragment (Bool.or_eq_false_iff.1 free).1

theorem printed_of_inUserinfo (free : inUserinfo c = false) : ' ' < c :=
  printed_of_inPath (Bool.or_eq_false_iff.1 free).1

end Harvest.Url
