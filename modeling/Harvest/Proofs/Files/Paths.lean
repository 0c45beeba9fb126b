import Harvest.Files
import Harvest.Proofs.Results
import Harvest.Proofs.Text.Split

/-!
The names of a path, and those of the path above it: there is at most one name more, apart from names that lead nowhere.
-/

namespace Harvest

namespace Text

theorem split_slash (path : String) : split path "/" = (path.toList.splitOn '/').map String.ofList := by
  rw [split, ← pieces_eq_splitOn]
  rfl

theorem not_mem_of_mem_split {path part : String} (member : part ∈ split path "/") : '/' ∉ part.toList := by
  rw [split_slash] at member
  obtain ⟨piece, inside, rfl⟩ := List.mem_map.1 member
  rw [String.toList_ofList]
  exact not_mem_of_mem_splitOn inside

theorem split_root : split "/" "/" = ["", ""] := by
  rw [split_slash]
  rfl

theorem split_intercalate {parts : List String} (some_part : parts ≠ []) (plain : ∀ p ∈ parts, '/' ∉ p.toList) :
    split ("/".intercalate parts) "/" = parts := by
  have slash : "/".toList = ['/'] := rfl
  have apart : ∀ piece ∈ parts.map String.toList, '/' ∉ piece := by simpa using plain
  rw [split_slash, String.toList_intercalate, slash, List.splitOn_intercalate '/' apart (by simpa using some_part)]
  simp

end Text

namespace Files

open Text

theorem isAbsolute_iff (path : String) :
    isAbsolute path = true ↔ ∃ part parts, split path "/" = "" :: part :: parts := by
  have slash : "/".toList = ['/'] := rfl
  rw [isAbsolute, String.startsWith_string_iff, split_slash, slash]
  cases path.toList with
  | nil => simp
  | cons c s =>
    rw [List.splitOn_cons_eq_if_modifyHead]
    obtain ⟨first, rest, whole⟩ := List.exists_cons_of_ne_nil (List.splitOn_ne_nil '/' s)
    by_cases same : c = '/'
    · simp [same, whole]
    · simp [same, Ne.symm same, whole, ← String.toList_inj]

section Name

variable {path : String} (no_slash : '/' ∉ path.toList)

include no_slash

theorem split_of_name : split path "/" = [path] := by
  rw [split_slash, List.splitOn_eq_singleton no_slash, List.map_singleton, String.ofList_toList]

theorem isAbsolute_of_name : isAbsolute path = false := by
  rw [← Bool.not_eq_true, isAbsolute_iff, split_of_name no_slash]
  rintro ⟨_, _, same⟩
  cases same

/-- A single name leads to its place in the directory where it is looked up. -/
theorem locate_of_name (no_nul : '\x00' ∉ path.toList) (named : path ∉ ["", ".", ".."])
    (short : path.utf8ByteSize ≤ 255) (fs : Files) (cwd : List String) :
    fs.locate cwd path = .ok ⟨cwd, some path, false⟩ := by
  have some_path : path ≠ "" ∧ path ≠ "." ∧ path ≠ ".." := by simpa using named
  have names_path : names path = [path] := by
    rw [names, split_of_name no_slash]
    simp [some_path.1]
  have no_nul_any : path.any (· = '\x00') = false := by
    refine String.contains_prop_eq.trans ?_
    rw [List.any_eq_false]
    intro c member
    simpa using fun same : c = '\x00' => no_nul (same ▸ member)
  have no_slash_last : path.endsWith "/" = false := by
    rw [String.endsWith, String.Slice.endsWith_string_eq_false_iff, String.copy_toSlice]
    exact fun suffix => no_slash (suffix.subset List.mem_cons_self)
  simp only [locate, no_nul_any, names_path, isAbsolute_of_name no_slash, no_slash_last]
  rw [if_neg Bool.false_ne_true, if_neg some_path.1, if_neg (by omega)]
  refine bind_eq_ok.2 ⟨cwd, rfl, ?_⟩
  simp only [List.getLast?_singleton]
  rw [if_neg (not_or.2 some_path.2), if_neg (Nat.not_lt.2 short)]

end Name

theorem trimParts_spec (parts : List String) :
    ∃ cut, parts = cut ++ trimParts parts ∧ ∀ p ∈ cut, p = "" ∨ p = "." := by
  induction parts with
  | nil => exact ⟨[], rfl, List.forall_mem_nil _⟩
  | cons p ps ih =>
    rw [trimParts]
    split
    · rename_i idle
      obtain ⟨cut, whole, each⟩ := ih
      exact ⟨p :: cut, congrArg (p :: ·) whole, List.forall_mem_cons.2 ⟨idle.2, each⟩⟩
    · exact ⟨[], rfl, List.forall_mem_nil _⟩

theorem trimParts_ne_nil {parts : List String} (some_part : parts ≠ []) : trimParts parts ≠ [] := by
  induction parts with
  | nil => exact absurd rfl some_part
  | cons p ps ih =>
    rw [trimParts]
    split
    · rename_i idle
      exact ih idle.1
    · exact List.cons_ne_nil p ps

/-- The path above a path, empty where there is none. -/
def above (path : String) : String := (parent? path).getD ""

theorem above_of_single {path part : String} (trimmed : trimParts (split path "/").reverse = [part]) :
    above path = "" := by
  rw [above, parent?, trimmed]
  dsimp only
  split <;> rfl

theorem above_of_root {path last : String} {parts : List String}
    (trimmed : trimParts (split path "/").reverse = last :: parts) (some_part : parts ≠ [])
    (root : trimParts parts = [""]) : above path = "/" := by
  obtain ⟨part, rest, rfl⟩ := List.exists_cons_of_ne_nil some_part
  rw [above, parent?, trimmed]
  dsimp only
  rw [root]
  rfl

theorem above_of_parts {path last : String} {parts : List String}
    (trimmed : trimParts (split path "/").reverse = last :: parts) (some_part : parts ≠ [])
    (no_root : trimParts parts ≠ [""]) : above path = "/".intercalate (trimParts parts).reverse := by
  obtain ⟨part, rest, rfl⟩ := List.exists_cons_of_ne_nil some_part
  rw [above, parent?, trimmed]
  dsimp only
  split
  · rename_i root
    exact absurd root no_root
  · rfl

theorem isAbsolute_of_start {path other last : String} {start idle trailing : List String}
    (whole : split path "/" = start ++ idle ++ last :: trailing) (same : split other "/" = start)
    (no_root : start ≠ [""]) : isAbsolute other = isAbsolute path := by
  rw [Bool.eq_iff_iff, isAbsolute_iff, isAbsolute_iff, whole, same]
  rcases start with _ | ⟨first, _ | ⟨second, rest⟩⟩
  · exact absurd same (by simp [split_slash])
  · have named : first ≠ "" := by simpa using no_root
    simp [named]
  · simp

/-- The parts of a path begin with those of the path above it, and go on with one part among parts that lead nowhere. -/
theorem exists_split_above (path : String) : ∃ start idle last trailing,
    split path "/" = start ++ idle ++ last :: trailing ∧ (∀ p ∈ idle ++ trailing, p = "" ∨ p = ".") ∧
      names (above path) = start.filter (· ≠ "") ∧ (above path ≠ "" → isAbsolute (above path) = isAbsolute path) := by
  obtain ⟨trailing, whole, trailing_idle⟩ := trimParts_spec (split path "/").reverse
  have some_part : trimParts (split path "/").reverse ≠ [] := trimParts_ne_nil (by simp [split_slash])
  obtain ⟨last, parts, trimmed⟩ := List.exists_cons_of_ne_nil some_part
  rw [trimmed, List.reverse_eq_iff, List.reverse_append, List.reverse_cons] at whole
  by_cases single : parts = []
  · subst single
    refine ⟨[], [], last, trailing.reverse, whole, by simpa using trailing_idle, ?_, ?_⟩
    · simp [above_of_single trimmed, names, split_slash]
    · exact fun some_path => absurd (above_of_single trimmed) some_path
  · obtain ⟨idle, parts_eq, idle_idle⟩ := trimParts_spec parts
    have some_start := trimParts_ne_nil single
    have turned : parts.reverse = (trimParts parts).reverse ++ idle.reverse := by
      rw [← List.reverse_append, ← parts_eq]
    have parts_whole : split path "/" = (trimParts parts).reverse ++ idle.reverse ++ last :: trailing.reverse := by
      rw [whole, turned, List.append_assoc, List.singleton_append]
    have each : ∀ p ∈ idle.reverse ++ trailing.reverse, p = "" ∨ p = "." := by
      simpa [or_imp, forall_and] using ⟨idle_idle, trailing_idle⟩
    refine ⟨(trimParts parts).reverse, idle.reverse, last, trailing.reverse, parts_whole, each, ?_⟩
    by_cases root : trimParts parts = [""]
    · have above_root := above_of_root trimmed single root
      refine ⟨by rw [above_root, root, names, split_root]; rfl, fun _ => ?_⟩
      obtain ⟨part, rest, later⟩ := List.exists_cons_of_ne_nil
        (List.append_ne_nil_of_right_ne_nil idle.reverse (List.cons_ne_nil last trailing.reverse))
      have absolute : isAbsolute path = true := by
        rw [isAbsolute_iff, parts_whole, root, List.append_assoc, later]
        exact ⟨part, rest, rfl⟩
      rw [above_root, absolute, isAbsolute_iff]
      exact ⟨"", [], split_root⟩
    · have plain : ∀ part ∈ (trimParts parts).reverse, '/' ∉ part.toList := by
        intro part member
        have inside : part ∈ split path "/" :=
          parts_whole ▸ List.mem_append_left _ (List.mem_append_left _ member)
        exact not_mem_of_mem_split inside
      have same : split (above path) "/" = (trimParts parts).reverse := by
        rw [above_of_parts trimmed single root]
        exact split_intercalate (by simpa using some_start) plain
      refine ⟨by rw [names, same], fun _ => isAbsolute_of_start parts_whole same ?_⟩
      simpa [List.reverse_eq_iff] using root

end Files

end Harvest
