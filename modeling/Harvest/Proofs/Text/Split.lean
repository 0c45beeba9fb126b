import Harvest.Text.Split
import Mathlib.Data.List.Infix

/-!
What a split finds. A delimiter that is not empty is cut out where it stands first, and a text without it is its
only piece. This leaves one list of pieces only. A single character splits as it does a list.
-/

namespace Harvest.Text

variable {d s a b t u v : List Char} {j k : Nat}

/-- Whether `d` stands in `s` after `k` characters, and not before. -/
def FirstAt (d s : List Char) (k : Nat) : Prop := d <+: s.drop k ∧ ∀ j < k, ¬d <+: s.drop j

instance : Decidable (FirstAt d s k) := inferInstanceAs (Decidable (_ ∧ _))

theorem FirstAt.le (first : FirstAt d s j) (here : d <+: s.drop k) : j ≤ k :=
  Nat.le_of_not_lt fun before => first.2 k before here

theorem FirstAt.unique (first : FirstAt d s j) (other : FirstAt d s k) : j = k :=
  Nat.le_antisymm (first.le other.1) (other.le first.1)

/-- Where a text goes on after the delimiter does not matter to a delimiter that begins before the end of it. -/
theorem prefix_drop_append (b : List Char) (within : k ≤ a.length) :
    d <+: (a ++ d ++ b).drop k ↔ d <+: (a ++ d).drop k := by
  have long : d.length ≤ ((a ++ d).drop k).length := by
    rw [List.length_drop, List.length_append]
    omega
  rw [List.drop_append_of_le_length (by rw [List.length_append]; omega), List.isPrefix_append_of_length long]

theorem firstAt_append (d a b : List Char) : FirstAt d (a ++ d ++ b) a.length ↔ FirstAt d (a ++ d) a.length :=
  and_congr (prefix_drop_append b (Nat.le_refl _))
    (forall₂_congr fun _ before => not_congr (prefix_drop_append b (Nat.le_of_lt before)))

theorem not_infix_of_firstAt_end (nonempty : d ≠ []) (first : FirstAt d (t ++ d) t.length) : ¬d <:+: t := by
  rintro ⟨u, v, rfl⟩
  have here : d <+: (u ++ d ++ v ++ d).drop u.length := by
    simp only [List.append_assoc, List.drop_left]
    exact List.prefix_append _ _
  have early := first.le here
  have positive := List.length_pos_iff.2 nonempty
  simp only [List.length_append] at early
  omega

/-- A delimiter that begins before the end of a text and ends behind it overlaps with the one that follows. -/
theorem drop_prefix_of_overlap (here : d <+: (t ++ d).drop k) (before : k ≤ t.length) :
    d.drop (t.length - k) <+: d := by
  have later := here.drop (t.length - k)
  rwa [List.drop_drop, Nat.add_sub_cancel' before, List.drop_left] at later

theorem cutFirst_eq_none (nonempty : d ≠ []) : cutFirst d s = none ↔ ¬d <:+: s := by
  induction s with
  | nil => simp [cutFirst, nonempty]
  | cons c r ih =>
    rw [List.infix_cons_iff, not_or, ← ih, ← List.isPrefixOf_iff_prefix, cutFirst]
    split
    · rename_i here
      simp [here]
    · rename_i elsewhere
      simp [elsewhere]

theorem cutFirst_firstAt (cut : cutFirst d s = some (a, b)) : FirstAt d s a.length := by
  induction s generalizing a b with
  | nil => cases cut
  | cons c r ih =>
    unfold cutFirst at cut
    split at cut
    · rename_i here
      obtain ⟨rfl, rfl⟩ := Prod.mk.inj (Option.some.inj cut)
      exact ⟨List.isPrefixOf_iff_prefix.1 here, fun j before => absurd before (Nat.not_lt_zero j)⟩
    · rename_i elsewhere
      obtain ⟨⟨a', b'⟩, cut', same⟩ := Option.map_eq_some_iff.1 cut
      obtain ⟨rfl, rfl⟩ := Prod.mk.inj same
      obtain ⟨here, first⟩ := ih cut'
      refine ⟨here, ?_⟩
      intro j before
      cases j with
      | zero => rwa [List.drop_zero, ← List.isPrefixOf_iff_prefix]
      | succ j => exact first j (Nat.lt_of_succ_lt_succ before)

theorem cutFirst_eq_some_iff (nonempty : d ≠ []) :
    cutFirst d s = some (a, b) ↔ s = a ++ d ++ b ∧ FirstAt d s a.length := by
  constructor
  · exact fun cut => ⟨cutFirst_eq_some cut, cutFirst_firstAt cut⟩
  · rintro ⟨whole, first⟩
    cases cut : cutFirst d s with
    | none => exact absurd ⟨a, b, whole.symm⟩ ((cutFirst_eq_none nonempty).1 cut)
    | some found =>
      have same := cutFirst_eq_some cut
      have length := (cutFirst_firstAt cut).unique first
      rw [whole, List.append_assoc, List.append_assoc] at same
      obtain ⟨before, after⟩ := List.append_inj same length.symm
      rw [before, List.append_cancel_left after]

/-- What stands behind the end of the first delimiter is in the rest that is cut off. -/
theorem infix_of_cut (cut : cutFirst d (u ++ v) = some (a, b)) (behind : a.length + d.length ≤ u.length)
    (present : d <:+: v) : d <:+: b := by
  have whole := cutFirst_eq_some cut
  have lengths := congrArg List.length whole
  simp only [List.length_append] at lengths
  have rest : v <:+ b := by
    refine List.suffix_of_suffix_length_le (List.suffix_append u v) ?_ (by omega)
    rw [whole]
    exact List.suffix_append _ _
  exact present.trans rest.isInfix

theorem pieces_of_absent (nonempty : d ≠ []) (absent : ¬d <:+: s) : pieces d s = [s] := by
  have none := (cutFirst_eq_none nonempty).2 absent
  rw [pieces, dif_neg nonempty]
  split
  · rfl
  · rename_i found
    cases none.symm.trans found

theorem pieces_of_cut (nonempty : d ≠ []) (cut : cutFirst d s = some (a, b)) :
    pieces d s = a :: pieces d b := by
  rw [pieces, dif_neg nonempty]
  split
  · rename_i found
    cases cut.symm.trans found
  · rename_i found
    obtain ⟨rfl, rfl⟩ := Prod.mk.inj (Option.some.inj (cut.symm.trans found))
    rfl

theorem pieces_ne_nil : pieces d s ≠ [] := by
  rw [pieces]
  split
  · exact List.cons_ne_nil _ _
  · split <;> exact List.cons_ne_nil _ _

theorem pieces_of_present (nonempty : d ≠ []) (cut : cutFirst d s = some (a, b)) (present : d <:+: b) :
    ∃ first second third rest, pieces d s = first :: second :: third :: rest := by
  cases again : cutFirst d b with
  | none => exact absurd present ((cutFirst_eq_none nonempty).1 again)
  | some found =>
    obtain ⟨third, rest, last⟩ := List.exists_cons_of_ne_nil (pieces_ne_nil (d := d) (s := found.2))
    exact ⟨a, found.1, third, rest, by rw [pieces_of_cut nonempty cut, pieces_of_cut nonempty again, last]⟩

theorem pieces_eq_singleton_iff (nonempty : d ≠ []) : pieces d s = [a] ↔ s = a ∧ ¬d <:+: s := by
  cases cut : cutFirst d s with
  | none =>
    have absent := (cutFirst_eq_none nonempty).1 cut
    rw [pieces_of_absent nonempty absent]
    simp [absent]
  | some found =>
    have present : d <:+: s := ⟨found.1, found.2, (cutFirst_eq_some cut).symm⟩
    rw [pieces_of_cut nonempty cut]
    simp [present, pieces_ne_nil]

theorem pieces_eq_cons_cons_iff (nonempty : d ≠ []) {ps : List (List Char)} :
    pieces d s = a :: b :: ps ↔ ∃ r, s = a ++ d ++ r ∧ FirstAt d (a ++ d) a.length ∧ pieces d r = b :: ps := by
  constructor
  · intro many
    cases cut : cutFirst d s with
    | none =>
      rw [pieces_of_absent nonempty ((cutFirst_eq_none nonempty).1 cut)] at many
      cases many
    | some found =>
      rw [pieces_of_cut nonempty cut] at many
      obtain ⟨rfl, rest⟩ := List.cons.inj many
      obtain ⟨rfl, first⟩ := (cutFirst_eq_some_iff nonempty).1 cut
      exact ⟨found.2, rfl, (firstAt_append d found.1 found.2).1 first, rest⟩
  · rintro ⟨r, rfl, first, rest⟩
    have cut := (cutFirst_eq_some_iff nonempty).2 ⟨rfl, (firstAt_append d a r).2 first⟩
    rw [pieces_of_cut nonempty cut, rest]

theorem pieces_eq_pair_iff (nonempty : d ≠ []) :
    pieces d s = [a, b] ↔ s = a ++ d ++ b ∧ FirstAt d (a ++ d) a.length ∧ ¬d <:+: b := by
  rw [pieces_eq_cons_cons_iff nonempty]
  constructor
  · rintro ⟨r, rfl, first, rest⟩
    obtain ⟨rfl, absent⟩ := (pieces_eq_singleton_iff nonempty).1 rest
    exact ⟨rfl, first, absent⟩
  · rintro ⟨rfl, first, absent⟩
    exact ⟨b, rfl, first, pieces_of_absent nonempty absent⟩

/-- The pieces are the only list that the delimiter joins to the text, in which no piece has the delimiter, and every
piece but the last ends where the delimiter behind it is found first. -/
theorem pieces_eq_iff (nonempty : d ≠ []) {ps : List (List Char)} :
    pieces d s = ps ↔ ps ≠ [] ∧ d.intercalate ps = s ∧ (∀ p ∈ ps, ¬d <:+: p) ∧
      ∀ p ∈ ps.dropLast, FirstAt d (p ++ d) p.length := by
  induction ps generalizing s with
  | nil => simp [pieces_ne_nil]
  | cons a ps ih =>
    cases ps with
    | nil =>
      rw [pieces_eq_singleton_iff nonempty]
      simp only [List.intercalate_singleton, List.forall_mem_singleton, List.dropLast_singleton]
      constructor
      · rintro ⟨rfl, absent⟩
        exact ⟨List.cons_ne_nil _ _, rfl, absent, by simp⟩
      · rintro ⟨-, rfl, absent, -⟩
        exact ⟨rfl, absent⟩
    | cons b ps =>
      rw [pieces_eq_cons_cons_iff nonempty, List.intercalate_cons_cons, List.dropLast_cons_cons, List.forall_mem_cons,
        List.forall_mem_cons (a := a)]
      simp only [ih]
      -- a piece behind which the delimiter is found first has none itself
      constructor
      · rintro ⟨r, rfl, first, -, rfl, absent, firsts⟩
        exact ⟨List.cons_ne_nil _ _, rfl, ⟨not_infix_of_firstAt_end nonempty first, absent⟩, first, firsts⟩
      · rintro ⟨-, rfl, ⟨-, absent⟩, first, firsts⟩
        exact ⟨_, rfl, first, List.cons_ne_nil _ _, rfl, absent, firsts⟩

theorem cutFirst_singleton {c : Char} (absent : c ∉ a) : cutFirst [c] (a ++ c :: b) = some (a, b) := by
  induction a with
  | nil => simp [cutFirst]
  | cons d a ih =>
    obtain ⟨other, later⟩ := not_or.1 (mt List.mem_cons.2 absent)
    have elsewhere : ¬[c].isPrefixOf (d :: (a ++ c :: b)) = true := by simp [other]
    rw [List.cons_append, cutFirst, if_neg elsewhere, ih later]
    rfl

theorem not_mem_of_mem_splitOn {c : Char} {s piece : List Char} (member : piece ∈ s.splitOn c) : c ∉ piece := by
  induction s generalizing piece with
  | nil =>
    rw [List.splitOn_nil, List.mem_singleton] at member
    exact member ▸ List.not_mem_nil
  | cons d s ih =>
    rw [List.splitOn_cons_eq_if_modifyHead] at member
    split at member
    · rcases List.mem_cons.1 member with rfl | later
      · exact List.not_mem_nil
      · exact ih later
    · rename_i other
      obtain ⟨first, rest, whole⟩ := List.exists_cons_of_ne_nil (List.splitOn_ne_nil c s)
      rw [whole, List.modifyHead_cons] at member
      rcases List.mem_cons.1 member with rfl | later
      · have before : c ∉ first := ih (whole ▸ List.mem_cons_self)
        simp only [beq_iff_eq] at other
        simp [before, Ne.symm other]
      · exact ih (whole ▸ List.mem_cons_of_mem first later)

theorem pieces_eq_splitOn (c : Char) (s : List Char) : pieces [c] s = s.splitOn c := by
  have apart : ∀ p ∈ s.splitOn c, c ∉ p := fun _ => not_mem_of_mem_splitOn
  rw [pieces_eq_iff (List.cons_ne_nil c [])]
  refine ⟨List.splitOn_ne_nil c s, List.intercalate_splitOn c, ?_, ?_⟩
  · intro p member
    rw [List.singleton_infix_iff]
    exact apart p member
  · intro p member
    exact cutFirst_firstAt (cutFirst_singleton (apart p (List.mem_of_mem_dropLast member)))

end Harvest.Text
