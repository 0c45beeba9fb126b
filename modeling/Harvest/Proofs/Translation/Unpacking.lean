import Harvest.Proofs.Translation.Packing

/-!
Texts and their parts. There is one way only to make up a text of parts that are each cut off at the first delimiter
that is found. Two fields come back from their packed text just where the delimiter between them is the first one and
the second field has none. For a delimiter that does not overlap with itself, and for no other one, this means that no
field has the delimiter.
-/

namespace Harvest.Translation

open Text (FirstAt)

variable {delimiter : String}

theorem unpack_eq_iff_pieces {text : String} {parts : List String} :
    unpack text delimiter = parts ↔ Text.pieces delimiter.toList text.toList = parts.map String.toList := by
  constructor
  · rintro rfl
    simp [unpack, Text.split]
  · intro same
    simp [unpack, Text.split, same]

/-- The parts of a text are the only list of one part or more that the delimiter joins to the text, in which no part has
the delimiter, and every part but the last ends where the delimiter that follows it is the first one. -/
theorem unpack_eq_iff_greedy (nonempty : delimiter ≠ "") (text : String) (parts : List String) :
    unpack text delimiter = parts ↔
      parts ≠ [] ∧ delimiter.intercalate parts = text ∧ (∀ part ∈ parts, ¬delimiter.toList <:+: part.toList) ∧
        ∀ part ∈ parts.dropLast, FirstAt delimiter.toList (part ++ delimiter).toList part.length := by
  rw [unpack_eq_iff_pieces, Text.pieces_eq_iff (toList_ne_nil nonempty), ← String.toList_intercalate, String.toList_inj,
    ← List.map_dropLast]
  simp only [ne_eq, List.map_eq_nil_iff, List.forall_mem_map, String.toList_append, String.length_toList]

/-- A delimiter that overlaps with itself is found as early as it can be, and leaves an empty part at the end. -/
theorem unpack_eq_iff_greedy_overlapping :
    "||" ≠ "" ∧ unpack "a|||b||" "||" = ["a", "|b", ""] ∧ "||".intercalate ["a|", "b", ""] = "a|||b||" ∧
      unpack "a|||b||" "||" ≠ ["a|", "b", ""] := by
  have nonempty : "||" ≠ "" := by decide
  have joined : "||".intercalate ["a|", "b", ""] = "a|||b||" := by decide
  refine ⟨nonempty, (unpack_eq_iff_greedy nonempty _ _).2 (by decide), joined, ?_⟩
  exact mt (unpack_eq_iff_greedy nonempty _ _).1 (by decide)

/-- Two parts make up the whole text, whatever the delimiter. -/
theorem eq_of_unpack_eq_pair {text first second : String} (two : unpack text delimiter = [first, second]) :
    text = first ++ delimiter ++ second := by
  rw [unpack_eq_iff_pieces, List.map_cons, List.map_singleton] at two
  rw [← String.toList_inj, String.toList_append, String.toList_append]
  by_cases nothing : delimiter.toList = []
  · rw [nothing, Text.pieces, dif_pos rfl] at two
    cases whole : text.toList with
    | nil =>
      rw [whole] at two
      simp only [List.map_nil, List.nil_append, List.cons_append, List.cons.injEq, and_true] at two
      rw [← two.1, ← two.2, nothing]
      rfl
    | cons c rest =>
      have long := congrArg List.length two
      simp [whole] at long
  · exact ((Text.pieces_eq_pair_iff nothing).1 two).1

theorem unpack_pack_iff (nonempty : delimiter ≠ "") (title content : String) :
    unpack (pack title content delimiter) delimiter = [title, content] ↔
      FirstAt delimiter.toList (title ++ delimiter).toList title.length ∧ ¬delimiter.toList <:+: content.toList := by
  rw [unpack_eq_iff_pieces, List.map_cons, List.map_singleton, Text.pieces_eq_pair_iff (toList_ne_nil nonempty),
    toList_pack, String.toList_append, String.length_toList]
  simp only [true_and]

theorem firstAt_end_of_unbordered {d t : List Char} (unbordered : Unbordered d) (absent : ¬d <:+: t) :
    FirstAt d (t ++ d) t.length := by
  refine ⟨by rw [List.drop_left], ?_⟩
  intro k before here
  by_cases inside : k + d.length ≤ t.length
  · rw [List.drop_append_of_le_length (Nat.le_of_lt before),
      List.isPrefix_append_of_length (by rw [List.length_drop]; omega)] at here
    exact absent (here.isInfix.trans (List.drop_suffix _ _).isInfix)
  · exact unbordered (t.length - k) (by omega) (by omega)
      (Text.drop_prefix_of_overlap here (Nat.le_of_lt before))

/-- A delimiter that overlaps with itself is found too early behind the part of it that is not repeated. -/
theorem not_firstAt_end_of_overlap {d : List Char} {k : Nat} (positive : 0 < k) (within : k < d.length)
    (overlap : d.drop k <+: d) : ¬FirstAt d (d.take k ++ d) (d.take k).length := by
  intro first
  have here : d <+: (d.take k ++ d).drop 0 := by
    conv => lhs; rw [← List.take_append_drop k d]
    exact (List.prefix_append_right_inj _).2 overlap
  have early := first.le here
  rw [List.length_take] at early
  omega

theorem unpack_pack_iff_absent (nonempty : delimiter ≠ "") :
    Unbordered delimiter.toList ↔ ∀ title content,
      unpack (pack title content delimiter) delimiter = [title, content] ↔
        ¬delimiter.toList <:+: title.toList ∧ ¬delimiter.toList <:+: content.toList := by
  have nonempty' := toList_ne_nil nonempty
  constructor
  · intro unbordered title content
    rw [unpack_pack_iff nonempty, String.toList_append, ← String.length_toList]
    refine and_congr_left fun _ => ?_
    exact ⟨Text.not_infix_of_firstAt_end nonempty', firstAt_end_of_unbordered unbordered⟩
  · intro back k within positive overlap
    have short : ¬delimiter.toList <:+: delimiter.toList.take k := by
      intro present
      have length := present.length_le
      rw [List.length_take] at length
      omega
    have both := (back (String.ofList (delimiter.toList.take k)) "").2
      ⟨by rwa [String.toList_ofList], by simpa using nonempty'⟩
    have first := ((unpack_pack_iff nonempty _ _).1 both).1
    rw [String.toList_append, ← String.length_toList, String.toList_ofList] at first
    exact not_firstAt_end_of_overlap positive within overlap first

theorem three_le_length_unpack (nonempty : delimiter ≠ "") {title content : String}
    (present : delimiter.toList <:+: title.toList ∨ delimiter.toList <:+: content.toList) :
    3 ≤ (unpack (pack title content delimiter) delimiter).length := by
  obtain ⟨a, b, cut, within⟩ := cutFirst_pack title content nonempty
  have again : delimiter.toList <:+: b := by
    rw [toList_pack] at cut
    rcases present with in_title | in_content
    · rw [List.append_assoc] at cut
      refine Text.infix_of_cut cut ?_ (List.prefix_append _ _).isInfix
      obtain ⟨u, v, whole⟩ := in_title
      have here : delimiter.toList <+:
          (title.toList ++ (delimiter.toList ++ content.toList)).drop u.length := by
        rw [← whole, List.append_assoc, List.append_assoc, List.drop_left]
        exact List.prefix_append _ _
      have early := (Text.cutFirst_firstAt cut).le here
      rw [← whole, List.length_append, List.length_append]
      omega
    · refine Text.infix_of_cut cut ?_ in_content
      rw [List.length_append]
      omega
  obtain ⟨first, second, third, rest, many⟩ := Text.pieces_of_present (toList_ne_nil nonempty) cut again
  rw [unpack, Text.split, many]
  simp

/-- Which fields come back from their packed text: those whose delimiter is found at the end of the title first, and
nowhere in the content. They are those that do not have the delimiter just if the delimiter does not overlap with
itself, as the one that is used by default; a field that has it always makes for three parts or more. -/
theorem fields_return_iff_first_at_end (nonempty : delimiter ≠ "") :
    (∀ title content, unpack (pack title content delimiter) delimiter = [title, content] ↔
      FirstAt delimiter.toList (title ++ delimiter).toList title.length ∧
        ¬delimiter.toList <:+: content.toList) ∧
    (Unbordered delimiter.toList ↔ ∀ title content,
      unpack (pack title content delimiter) delimiter = [title, content] ↔
        ¬delimiter.toList <:+: title.toList ∧ ¬delimiter.toList <:+: content.toList) ∧
    Unbordered defaultDelimiter.toList ∧
    ∀ title content, delimiter.toList <:+: title.toList ∨ delimiter.toList <:+: content.toList →
      3 ≤ (unpack (pack title content delimiter) delimiter).length := by
  refine ⟨unpack_pack_iff nonempty, unpack_pack_iff_absent nonempty, by decide, ?_⟩
  intro title content present
  exact three_le_length_unpack nonempty present

/-- The delimiter `||` and fields that come close to it, one that overlaps with it, and one that has it. -/
theorem fields_return_close_to_delimiter :
    "||" ≠ "" ∧ unpack (pack "a|b" "|c" "||") "||" = ["a|b", "|c"] ∧
      unpack (pack "a|" "b" "||") "||" ≠ ["a|", "b"] ∧ 3 ≤ (unpack (pack "a" "b||" "||") "||").length := by
  have nonempty : "||" ≠ "" := by decide
  obtain ⟨back, _, _, many⟩ := fields_return_iff_first_at_end nonempty
  refine ⟨nonempty, (back _ _).2 (by decide), ?_, many _ _ (.inr (by decide))⟩
  exact mt (back _ _).1 (by decide)

end Harvest.Translation
