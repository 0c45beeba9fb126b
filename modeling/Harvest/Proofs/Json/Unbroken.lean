import Harvest.Proofs.Json.Scalars
import Harvest.Json.Writer

/-!
Values on one line hold no line feed, whatever their strings hold.
-/

namespace Harvest

open Json

theorem Decimal.feed_not_mem_toDigits (n : Nat) : '\n' ∉ Nat.toDigits 10 n := by
  intro member
  have digit := Nat.isDigit_of_mem_toDigits (by decide) (by decide) member
  exact absurd digit (by decide)

theorem Decimal.feed_not_mem_positional (d : Decimal.Scaled) : '\n' ∉ (positional d).toList := by
  have digits := feed_not_mem_toDigits d.digits
  have first : ∀ k, '\n' ∉ (Nat.toDigits 10 d.digits).take k :=
    fun _ member => digits (List.mem_of_mem_take member)
  have last : ∀ k, '\n' ∉ (Nat.toDigits 10 d.digits).drop k :=
    fun _ member => digits (List.mem_of_mem_drop member)
  unfold positional
  dsimp only
  split
  · simp [zeros, digits]
  · split
    · simp [first, last]
    · simp [zeros, digits]

theorem Decimal.feed_not_mem_scientific (d : Decimal.Scaled) (exponent : Int) :
    '\n' ∉ (scientific d exponent).toList := by
  have digits := feed_not_mem_toDigits d.digits
  have first : '\n' ∉ (Nat.toDigits 10 d.digits).take 1 := fun member => digits (List.mem_of_mem_take member)
  have rest : '\n' ∉ (Nat.toDigits 10 d.digits).tail := fun member => digits (List.mem_of_mem_tail member)
  have power := feed_not_mem_toDigits exponent.natAbs
  unfold scientific
  dsimp only
  split <;> split <;> simp [toString, first, rest, power]

namespace Json

theorem feed_not_mem_writeNumber (n : Number) : '\n' ∉ writeNumber n := by
  cases n with
  | integer k =>
    cases k with
    | ofNat k =>
      rw [Int.ofNat_eq_natCast, writeNumber_natCast]
      exact Decimal.feed_not_mem_toDigits k
    | negSucc k =>
      rw [writeNumber_negSucc, List.mem_cons, not_or]
      exact ⟨by decide, Decimal.feed_not_mem_toDigits (k + 1)⟩
  | float x =>
    have positional := Decimal.feed_not_mem_positional
    have scientific := Decimal.feed_not_mem_scientific
    dsimp only [writeNumber, Decimal.Format.write]
    split <;> split <;> simp [positional, scientific]

theorem feed_not_mem_escape (c : Char) : '\n' ∉ escape c := by
  have hex : ∀ n < 16, '\n' ≠ hexDigit n := by decide
  unfold escape
  by_cases feed : c = '\n'
  · subst feed
    decide
  · rw [if_neg feed]
    iterate 6
      split
      · decide
    split
    case isTrue control =>
      have high := hex (c.toNat / 16) (by omega)
      have low := hex (c.toNat % 16) (Nat.mod_lt _ (by decide))
      simp [high, low]
    case isFalse => simpa using Ne.symm feed

theorem feed_not_mem_quote (s : String) : '\n' ∉ quote s := by
  have escapes : '\n' ∉ s.toList.flatMap escape := by
    intro member
    obtain ⟨c, _, here⟩ := List.mem_flatMap.1 member
    exact feed_not_mem_escape c here
  simp [quote, escapes]

mutual
theorem feed_not_mem_write : ∀ v : Json, '\n' ∉ write v
  | null | bool true | bool false | array [] | object [] => by decide
  | number n => feed_not_mem_writeNumber n
  | string s => feed_not_mem_quote s
  | array (v :: vs) => by
    have first := feed_not_mem_write v
    have later := feed_not_mem_writeItems vs
    simp [write, first, later]
  | object ((k, v) :: ms) => by
    have key := feed_not_mem_quote k
    have first := feed_not_mem_write v
    have later := feed_not_mem_writeMembers ms
    simp [write, key, first, later]

theorem feed_not_mem_writeItems : ∀ vs : List Json, '\n' ∉ writeItems vs
  | [] => by decide
  | v :: vs => by
    have first := feed_not_mem_write v
    have later := feed_not_mem_writeItems vs
    simp [writeItems, first, later]

theorem feed_not_mem_writeMembers : ∀ ms : List (String × Json), '\n' ∉ writeMembers ms
  | [] => by decide
  | (k, v) :: ms => by
    have key := feed_not_mem_quote k
    have first := feed_not_mem_write v
    have later := feed_not_mem_writeMembers ms
    simp [writeMembers, key, first, later]
end

end Json

end Harvest
