import Harvest.Proofs.Text.Split
import Harvest.Translation.Packing

/-!
Packed texts that are split as they were packed. The two fields come back, or the split is seen to be ambiguous,
unless the end of the title and the beginning of the delimiter make up a delimiter of their own.
-/

namespace Harvest.Translation

open Text (FirstAt)

/-- The delimiter stands first before the end of the title, and nowhere after that. -/
def Misread (title delimiter content : String) : Prop :=
  ∃ k < title.toList.length, FirstAt delimiter.toList (pack title content delimiter).toList k ∧
    ¬delimiter.toList <:+: (pack title content delimiter).toList.drop (k + delimiter.toList.length)

instance (title delimiter content : String) : Decidable (Misread title delimiter content) :=
  inferInstanceAs (Decidable (∃ k < title.toList.length, _ ∧ _))

section Pack

variable {title delimiter content : String}

theorem toList_pack (title content delimiter : String) :
    (pack title content delimiter).toList = title.toList ++ delimiter.toList ++ content.toList := by
  simp [pack]

theorem toList_ne_nil (nonempty : delimiter ≠ "") : delimiter.toList ≠ [] := by
  simpa using nonempty

theorem cutFirst_pack (title content : String) (nonempty : delimiter ≠ "") :
    ∃ a b, Text.cutFirst delimiter.toList (pack title content delimiter).toList = some (a, b) ∧
      a.length ≤ title.toList.length := by
  have place : delimiter.toList <+: (pack title content delimiter).toList.drop title.toList.length := by
    rw [toList_pack, List.append_assoc, List.drop_left]
    exact List.prefix_append _ _
  cases cut : Text.cutFirst delimiter.toList (pack title content delimiter).toList with
  | none =>
    have absent := (Text.cutFirst_eq_none (toList_ne_nil nonempty)).1 cut
    exact absurd (place.isInfix.trans (List.drop_suffix _ _).isInfix) absent
  | some found =>
    exact ⟨found.1, found.2, rfl, (Text.cutFirst_firstAt cut).le place⟩

theorem misread_iff {a b : List Char}
    (cut : Text.cutFirst delimiter.toList (pack title content delimiter).toList = some (a, b)) :
    Misread title delimiter content ↔ a.length < title.toList.length ∧ ¬delimiter.toList <:+: b := by
  have rest : (pack title content delimiter).toList.drop (a.length + delimiter.toList.length) = b := by
    rw [Text.cutFirst_eq_some cut, ← List.length_append, List.drop_left]
  constructor
  · rintro ⟨k, before, first, absent⟩
    obtain rfl := first.unique (Text.cutFirst_firstAt cut)
    exact ⟨before, rest ▸ absent⟩
  · rintro ⟨before, absent⟩
    exact ⟨a.length, before, Text.cutFirst_firstAt cut, rest.symm ▸ absent⟩

theorem fields?_ofTranslation (title delimiter translated : String) :
    (Unpacked.ofTranslation title delimiter translated).fields? =
      match unpack translated delimiter with
      | [first, second] => some (if title = "" then "" else first, second)
      | _ => none := by
  unfold Unpacked.ofTranslation
  by_cases untitled : title = ""
  · subst untitled
    rcases unpack translated delimiter with _ | ⟨_, _ | ⟨_, _ | ⟨_, _⟩⟩⟩ <;> rfl
  · have titled : title.isEmpty = false := by simpa using untitled
    rw [titled]
    simp only [if_neg untitled]
    rcases unpack translated delimiter with _ | ⟨_, _ | ⟨_, _ | ⟨_, _⟩⟩⟩ <;> rfl

theorem fields?_eq_none {translated : String}
    (ambiguous : (Unpacked.ofTranslation title delimiter translated).fields? = none) :
    (unpack translated delimiter).length ≠ 2 := by
  rw [fields?_ofTranslation] at ambiguous
  intro two
  obtain ⟨first, second, parts⟩ := List.length_eq_two.1 two
  rw [parts] at ambiguous
  cases ambiguous

theorem fields?_eq_some {translated first second : String}
    (fields : (Unpacked.ofTranslation title delimiter translated).fields? = some (first, second)) :
    ∃ part, unpack translated delimiter = [part, second] ∧ first = if title = "" then "" else part := by
  rw [fields?_ofTranslation] at fields
  split at fields
  · rename_i part _ parts
    cases fields
    exact ⟨part, parts, rfl⟩
  · cases fields

theorem fields?_of_many {translated : String} {first second third : List Char} {rest : List (List Char)}
    (many : Text.pieces delimiter.toList translated.toList = first :: second :: third :: rest) :
    (Unpacked.ofTranslation title delimiter translated).fields? = none := by
  simp only [fields?_ofTranslation, unpack, Text.split, many, List.map_cons]

theorem fields?_of_two (title : String) {translated : String} {first second : List Char}
    (two : Text.pieces delimiter.toList translated.toList = [first, second]) :
    (Unpacked.ofTranslation title delimiter translated).fields? =
      some (if title = "" then "" else String.ofList first, String.ofList second) := by
  simp only [fields?_ofTranslation, unpack, Text.split, two, List.map_cons, List.map_nil]

/-- What comes back of a packed text that was not changed: another title, just where it is misread. -/
theorem fields?_pack (title content : String) (nonempty : delimiter ≠ "") :
    let fields := (Unpacked.ofTranslation title delimiter (pack title content delimiter)).fields?
    (Misread title delimiter content ∧ ∃ first second, first ≠ title ∧ fields = some (first, second)) ∨
    (¬Misread title delimiter content ∧ (fields = none ∨ fields = some (title, content))) := by
  intro fields
  have nonempty' := toList_ne_nil nonempty
  obtain ⟨a, b, cut, within⟩ := cutFirst_pack title content nonempty
  have whole := Text.cutFirst_eq_some cut
  rw [misread_iff cut]
  by_cases present : delimiter.toList <:+: b
  · obtain ⟨first, second, third, rest, many⟩ := Text.pieces_of_present nonempty' cut present
    exact .inr ⟨fun misread => misread.2 present, .inl (fields?_of_many many)⟩
  · have two : Text.pieces delimiter.toList (pack title content delimiter).toList = [a, b] := by
      rw [Text.pieces_of_cut nonempty' cut, Text.pieces_of_absent nonempty' present]
    have fields_eq : fields = _ := fields?_of_two title two
    by_cases before : a.length < title.toList.length
    · refine .inl ⟨⟨before, present⟩, _, _, ?_, fields_eq⟩
      have titled : title ≠ "" := by
        rintro rfl
        exact absurd before (Nat.not_lt_zero _)
      rw [if_neg titled]
      rintro rfl
      simp at before
    · refine .inr ⟨fun misread => before misread.1, .inr ?_⟩
      rw [toList_pack, List.append_assoc, List.append_assoc] at whole
      obtain ⟨rfl, rest⟩ := List.append_inj whole (by omega)
      obtain rfl := List.append_cancel_left rest
      rw [fields_eq, String.ofList_toList, String.ofList_toList]
      split
      · rename_i untitled
        rw [untitled]
      · rfl

/-- Whether no end of a text, other than the whole, is also its beginning. -/
def Unbordered (d : List Char) : Prop := ∀ k < d.length, 0 < k → ¬d.drop k <+: d

instance (d : List Char) : Decidable (Unbordered d) :=
  inferInstanceAs (Decidable (∀ k < d.length, 0 < k → ¬d.drop k <+: d))

/-- A delimiter that does not overlap with itself is never misread. -/
theorem not_misread_of_unbordered (unbordered : Unbordered delimiter.toList) :
    ¬Misread title delimiter content := by
  rintro ⟨k, before, ⟨here, _⟩, absent⟩
  rw [toList_pack] at here absent
  by_cases inside : k + delimiter.toList.length ≤ title.toList.length
  · apply absent
    rw [List.append_assoc, List.drop_append_of_le_length inside]
    exact (List.prefix_append _ _).isInfix.trans (List.suffix_append _ _).isInfix
  · -- the delimiter that is found ends within the one between the fields
    have overlap := Text.drop_prefix_of_overlap ((Text.prefix_drop_append _ (Nat.le_of_lt before)).1 here)
      (Nat.le_of_lt before)
    exact unbordered (title.toList.length - k) (by omega) (by omega) overlap

example : Unbordered defaultDelimiter.toList := by decide

end Pack

end Harvest.Translation
