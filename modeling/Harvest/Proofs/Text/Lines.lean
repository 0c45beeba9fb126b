import Harvest.Text.Lines
import Mathlib.Data.List.Basic

/-!
The lines of a text. A line feed ends a line, with the carriage return in front of it if there is one, and what stands
behind the last line feed is a line of its own unless it is empty.
-/

namespace Harvest.Text

/-- What may end a line. -/
def IsLineEnd (e : List Char) : Prop := e = ['\n'] ∨ e = ['\r', '\n']

instance (e : List Char) : Decidable (IsLineEnd e) := inferInstanceAs (Decidable (_ ∨ _))

theorem linesFrom_append {s : List Char} (unbroken : '\n' ∉ s) (current t : List Char) :
    linesFrom current (s ++ t) = linesFrom (s.reverse ++ current) t := by
  induction s generalizing current with
  | nil => rfl
  | cons c s ih =>
    rw [List.mem_cons, not_or] at unbroken
    have next : linesFrom current (c :: (s ++ t)) = linesFrom (c :: current) (s ++ t) := by
      rw [linesFrom]
      exact Ne.symm unbroken.1
    rw [List.cons_append, next, ih unbroken.2, List.reverse_cons, List.append_assoc, List.singleton_append]

theorem closeLine_return (s : List Char) : closeLine ('\r' :: s.reverse) = s := s.reverse_reverse

theorem closeLine_reverse (s : List Char) : closeLine s.reverse = s ∨ s = closeLine s.reverse ++ ['\r'] := by
  unfold closeLine
  split
  · rename_i r ended
    have whole := congrArg List.reverse ended
    rw [List.reverse_reverse, List.reverse_cons] at whole
    exact .inr whole
  · exact .inl s.reverse_reverse

/-- What stands before a line's end is its line, but for a carriage return that counts as part of the end. -/
theorem linesFrom_line {s e : List Char} (unbroken : '\n' ∉ s) (ends : IsLineEnd e) (t : List Char) :
    ∃ line, linesFrom [] (s ++ e ++ t) = line :: linesFrom [] t ∧ (line = s ∨ s = line ++ ['\r']) := by
  rcases ends with rfl | rfl
  · refine ⟨closeLine s.reverse, ?_, closeLine_reverse s⟩
    rw [List.append_assoc, linesFrom_append unbroken, List.append_nil]
    rfl
  · refine ⟨s, ?_, .inl rfl⟩
    have ended : linesFrom s.reverse ('\r' :: '\n' :: t) = closeLine ('\r' :: s.reverse) :: linesFrom [] t := rfl
    rw [List.append_assoc, linesFrom_append unbroken, List.append_nil]
    exact ended.trans (by rw [closeLine_return])

theorem linesFrom_last {s : List Char} (unbroken : '\n' ∉ s) :
    linesFrom [] s = if s = [] then [] else [s] := by
  have whole := linesFrom_append unbroken [] []
  rw [List.append_nil, List.append_nil] at whole
  rw [whole, linesFrom]
  simp

end Harvest.Text
