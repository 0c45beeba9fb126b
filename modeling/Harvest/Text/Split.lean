/-!
Splitting a text at a delimiter. A delimiter that is not empty is looked for from the left and every
occurrence found ends a piece, so occurrences never overlap; the empty delimiter stands before, between
and after all characters.
-/

namespace Harvest.Text

/-- What stands before and what after the first occurrence of `d`; nothing is found in the empty text. -/
def cutFirst (d : List Char) : List Char → Option (List Char × List Char)
  | [] => none
  | c :: r =>
    if d.isPrefixOf (c :: r) then some ([], (c :: r).drop d.length)
    else (cutFirst d r).map fun found => (c :: found.1, found.2)

theorem cutFirst_eq_some {d s a b : List Char} (h : cutFirst d s = some (a, b)) : s = a ++ d ++ b := by
  induction s generalizing a b with
  | nil => simp [cutFirst] at h
  | cons c r ih =>
    unfold cutFirst at h
    split at h
    · rename_i hp
      obtain ⟨t, ht⟩ := List.isPrefixOf_iff_prefix.1 hp
      simp only [Option.some.injEq, Prod.mk.injEq] at h
      obtain ⟨rfl, rfl⟩ := h
      simp [← ht]
    · obtain ⟨⟨a', b'⟩, hf, he⟩ := Option.map_eq_some_iff.1 h
      simp only [Prod.mk.injEq] at he
      obtain ⟨rfl, rfl⟩ := he
      simp [ih hf]

theorem cutFirst_length {d s a b : List Char} (hd : d ≠ []) (h : cutFirst d s = some (a, b)) :
    b.length < s.length := by
  have := List.length_pos_iff.2 hd
  rw [cutFirst_eq_some h]
  simp
  omega

/-- The pieces of a text between the occurrences of a delimiter. -/
def pieces (d s : List Char) : List (List Char) :=
  if hd : d = [] then [] :: s.map (fun c => [c]) ++ [[]]
  else
    match _found : cutFirst d s with
    | none => [s]
    | some (a, b) => a :: pieces d b
termination_by s.length
decreasing_by exact cutFirst_length hd _found

/-- The pieces of `text` between the occurrences of `delimiter`. -/
def split (text delimiter : String) : List String :=
  (pieces delimiter.toList text.toList).map String.ofList

/-- A text without the occurrences of `pattern`. -/
def without (text pattern : String) : String :=
  String.ofList (pieces pattern.toList text.toList).flatten

end Harvest.Text
