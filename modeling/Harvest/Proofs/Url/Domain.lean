import Harvest.Proofs.Results
import Harvest.Proofs.Text.Split
import Harvest.Proofs.Url.Form
import Harvest.Url.Host
import Mathlib.Data.Char

/-!
Hosts in ASCII. A domain in ASCII, none of whose labels is marked as the ASCII form of another one, is read as itself
in small letters.
-/

namespace Harvest.Url

variable {cs : List Char} {c : Char}

/-- The characters of a text are in ASCII, and a domain may hold them. -/
def IsPlain (cs : List Char) : Prop := ∀ c ∈ cs, c.toNat < 128 ∧ isForbidden c = false

/-- No label of a domain is marked as the ASCII form of another one. -/
def IsUnmarked (cs : List Char) : Prop := ∀ label ∈ splitAt '.' cs, afterMark? label = none

instance (cs : List Char) : Decidable (IsPlain cs) :=
  decidable_of_iff (cs.all fun c => decide (c.toNat < 128) && !isForbidden c) (by simp [IsPlain])

instance (cs : List Char) : Decidable (IsUnmarked cs) :=
  decidable_of_iff ((splitAt '.' cs).all fun label => (afterMark? label).isNone) (by simp [IsUnmarked])

section Decoding

theorem decodeBytes_of_absent {bytes : List UInt8} (absent : 37 ∉ bytes) : decodeBytes bytes = bytes := by
  induction bytes with
  | nil => rfl
  | cons b bytes ih =>
    rw [List.mem_cons, not_or] at absent
    rw [decodeBytes_cons (Ne.symm absent.1), ih absent.2]

theorem percent_isForbidden : ∀ c : Char, c.toNat < 128 → UInt8.ofNat c.toNat = 37 → isForbidden c = true :=
  Text.forall_ascii (by decide)

theorem percent_not_mem_utf8 (plain : IsPlain cs) : 37 ∉ cs.flatMap String.utf8EncodeChar := by
  intro member
  obtain ⟨c, inside, byte⟩ := List.mem_flatMap.1 member
  obtain ⟨ascii, allowed⟩ := plain c inside
  rw [Text.utf8EncodeChar_of_ascii ascii, List.mem_singleton] at byte
  have forbidden := percent_isForbidden c ascii byte.symm
  rw [allowed] at forbidden
  cases forbidden

theorem decode?_plain (plain : IsPlain cs) : decode? cs = some cs := by
  rw [decode?, decodeBytes_of_absent, Text.fromUTF8?_toList, Option.map_some, String.toList_ofList]
  rw [Text.toList_toUTF8_ofList]
  exact percent_not_mem_utf8 plain

end Decoding

section Folding

theorem foldChar?_ascii : ∀ c : Char, c.toNat < 128 → foldChar? c = some [c.toLower] :=
  Text.forall_ascii (by decide)

theorem fold?_ascii (ascii : ∀ c ∈ cs, c.toNat < 128) : fold? cs = some (cs.map Char.toLower) := by
  have each : cs.mapM foldChar? = some (cs.map fun c => [c.toLower]) :=
    mapM_eq_map fun c member => foldChar?_ascii c (ascii c member)
  rw [fold?, each, Option.map_some, ← List.flatMap_def, ← List.map_eq_flatMap]

theorem normal_of_low (low : ∀ c ∈ cs, c.toNat < 0x300) : Text.normal cs = cs := by
  have below : ((cs.map Char.toNat).all (· < 0x300)) = true := by simpa using low
  rw [Text.normal, Text.Normal.points, if_pos below, List.map_map]
  exact List.map_id'' (fun c => Char.ofNat_toNat c) cs

theorem lower_allowed : ∀ c : Char, c.toNat < 128 → isForbidden c = false →
    c.toLower.toNat < 128 ∧ isForbidden c.toLower = false := Text.forall_ascii (by decide)

theorem lower_plain (plain : IsPlain cs) : IsPlain (cs.map Char.toLower) := by
  intro d member
  obtain ⟨c, source, rfl⟩ := List.mem_map.1 member
  exact lower_allowed c (plain c source).1 (plain c source).2

end Folding

section Labels

theorem splitAt_ne_nil (sep : Char) (cs : List Char) : splitAt sep cs ≠ [] := by
  cases cs with
  | nil => exact List.cons_ne_nil _ _
  | cons c cs =>
    rw [splitAt]
    split
    · exact List.cons_ne_nil _ _
    · split <;> exact List.cons_ne_nil _ _

theorem splitAt_eq_splitOn (sep : Char) (cs : List Char) : splitAt sep cs = cs.splitOn sep := by
  induction cs with
  | nil => rfl
  | cons c cs ih =>
    rw [splitAt, List.splitOn_cons_eq_if_modifyHead, ← ih]
    simp only [beq_iff_eq]
    split
    · rfl
    · split
      · rename_i none
        exact absurd none (splitAt_ne_nil sep cs)
      · rename_i some
        rw [some, List.modifyHead_cons]

theorem joinLabels_splitAt (cs : List Char) : joinLabels (splitAt '.' cs) = cs := by
  rw [joinLabels, splitAt_eq_splitOn, List.intercalate_splitOn]

theorem mem_of_mem_splitAt {sep : Char} {label : List Char} (member : label ∈ splitAt sep cs) (inside : c ∈ label) :
    c ∈ cs := by
  induction cs generalizing label with
  | nil =>
    obtain rfl := List.mem_singleton.1 member
    exact inside
  | cons d cs ih =>
    unfold splitAt at member
    split at member
    · rcases List.mem_cons.1 member with rfl | later
      · cases inside
      · exact List.mem_cons_of_mem d (ih later inside)
    · split at member
      · rename_i none
        exact absurd none (splitAt_ne_nil sep cs)
      · rename_i p ps some
        rcases List.mem_cons.1 member with rfl | later
        · rcases List.mem_cons.1 inside with rfl | behind
          · exact List.mem_cons_self
          · exact List.mem_cons_of_mem d (ih (some ▸ List.mem_cons_self) behind)
        · exact List.mem_cons_of_mem d (ih (some ▸ List.mem_cons_of_mem p later) inside)

theorem read?_plain {label : List Char} (plain : IsPlain label) (unmarked : afterMark? label = none) :
    Label.read? label = some ⟨label, label⟩ := by
  have allowed : ¬label.any isForbidden = true := by
    rw [Bool.not_eq_true, List.any_eq_false]
    exact fun c member => by simp [(plain c member).2]
  have ascii : isAsciiLabel label = true := List.all_eq_true.2 fun c member => by simp [(plain c member).1]
  rw [Label.read?, if_neg allowed, unmarked]
  exact if_pos ascii

/-- A domain in ASCII whose labels are not marked is read as itself in small letters. -/
theorem asciiDomain?_plain (plain : IsPlain cs) (unmarked : IsUnmarked (cs.map Char.toLower)) :
    asciiDomain? cs = some (cs.map Char.toLower) := by
  have lower := lower_plain plain
  have normal : Text.normal (cs.map Char.toLower) = cs.map Char.toLower :=
    normal_of_low fun c member => Nat.lt_trans (lower c member).1 (by decide)
  have labels : ∀ label ∈ splitAt '.' (cs.map Char.toLower), IsPlain label :=
    fun label member c inside => lower c (mem_of_mem_splitAt member inside)
  have read : (splitAt '.' (cs.map Char.toLower)).mapM Label.read? =
      some ((splitAt '.' (cs.map Char.toLower)).map fun label => ⟨label, label⟩) :=
    mapM_eq_map fun label member => read?_plain (labels label member) (unmarked label member)
  have ordered : keepOrder (splitAt '.' (cs.map Char.toLower)) = true := by
    rw [keepOrder, Bool.or_eq_true]
    left
    simp only [List.all_eq_true, decide_eq_true_eq]
    exact fun label member c inside => (labels label member c inside).1
  simp only [asciiDomain?, fold?_ascii fun c member => (plain c member).1, normal, Option.bind_eq_bind,
    Option.bind_some, read, List.map_map, Function.comp_def, List.map_id', ordered,
    if_true, joinLabels_splitAt]
  rfl

end Labels

section Written

namespace Punycode

/-- The digits in which distances are written. -/
def digits : List Char := (List.range 36).map digitChar

theorem digitChar_mem {d : Nat} (small : d < 36) : digitChar d ∈ digits :=
  List.mem_map_of_mem (List.mem_range.2 small)

theorem threshold_bounds (k bias : Nat) : 1 ≤ threshold k bias ∧ threshold k bias ≤ 26 := by
  unfold threshold
  split
  · decide
  · split <;> omega

theorem mem_writeNumber {bias k q fuel : Nat} (member : c ∈ writeNumber bias k q fuel) : c ∈ digits := by
  induction fuel generalizing k q with
  | zero => cases member
  | succ fuel ih =>
    have bounds := threshold_bounds k bias
    simp only [writeNumber] at member
    split at member
    · obtain rfl := List.mem_singleton.1 member
      exact digitChar_mem (by omega)
    · rcases List.mem_cons.1 member with rfl | later
      · have rest := Nat.mod_lt (q - threshold k bias) (y := 36 - threshold k bias) (by omega)
        exact digitChar_mem (by omega)
      · exact ih later

theorem written_pass (basic n : Nat) {p : Progress} (written : ∀ c ∈ p.written, c ∈ digits) (m : Nat) :
    ∀ c ∈ (p.pass basic n m).written, c ∈ digits := by
  unfold Progress.pass
  split
  · exact written
  · split
    · intro c member
      rcases List.mem_append.1 member with before | number
      · exact written c before
      · exact mem_writeNumber number
    · exact written

theorem written_passes (basic n : Nat) (label : List Nat) {p : Progress} (written : ∀ c ∈ p.written, c ∈ digits) :
    ∀ c ∈ (label.foldl (Progress.pass basic n) p).written, c ∈ digits := by
  induction label generalizing p with
  | nil => exact written
  | cons m label ih => exact ih (written_pass basic n written m)

theorem mem_insertAll (label : List Nat) (basic : Nat) {next : Nat} {p : Progress} {others : List Nat}
    (written : ∀ c ∈ p.written, c ∈ digits) (member : c ∈ insertAll label basic next p others) : c ∈ digits := by
  induction others generalizing next p with
  | nil => exact written c member
  | cons n others ih =>
    refine ih ?_ member
    exact written_passes basic n label written

theorem mem_encode {label : List Char} (member : c ∈ encode label) :
    c ∈ label ∧ c.toNat < 128 ∨ c = '-' ∨ c ∈ digits := by
  simp only [encode, List.mem_append] at member
  rcases member with (basic | hyphen) | inserted
  · exact .inl (by simpa using basic)
  · split at hyphen
    · cases hyphen
    · exact .inr (.inl (List.mem_singleton.1 hyphen))
  · exact .inr (.inr (mem_insertAll _ _ (by simp) inserted))

end Punycode

theorem eq_of_afterMark? {label form : List Char} (marked : afterMark? label = some form) :
    label = 'x' :: 'n' :: '-' :: '-' :: form := by
  unfold afterMark? at marked
  split at marked
  · cases marked
    rfl
  · cases marked

theorem ascii_of_ofForm? {form shown : List Char} (found : Label.ofForm? form = some shown) :
    ∀ c ∈ form, c.toNat < 128 := by
  unfold Label.ofForm? at found
  split at found
  · cases found
  · rename_i allowed
    simp only [not_or, Bool.not_eq_true', Bool.not_eq_false, isAsciiLabel, List.all_eq_true, decide_eq_true_eq]
      at allowed
    exact allowed.2.2

/-- What a label is written as holds nothing that a domain may not hold. -/
theorem plain_written {label : List Char} {l : Label} (read : Label.read? label = some l) : IsPlain l.written := by
  unfold Label.read? at read
  split at read
  · cases read
  · rename_i allowed
    have free : ∀ c ∈ label, isForbidden c = false := by simpa using allowed
    split at read
    · rename_i form marked
      obtain ⟨shown, found, rfl⟩ := Option.map_eq_some_iff.1 read
      obtain rfl := eq_of_afterMark? marked
      have ascii := ascii_of_ofForm? found
      refine fun c member => ⟨?_, free c member⟩
      simp only [List.mem_cons] at member
      rcases member with rfl | rfl | rfl | rfl | member
      any_goals decide
      exact ascii c member
    · split at read
      · rename_i ascii
        cases read
        exact fun c member => ⟨by simpa using List.all_eq_true.1 ascii c member, free c member⟩
      · split at read
        · cases read
          have digits : IsPlain ('x' :: 'n' :: '-' :: '-' :: Punycode.digits) := by decide
          intro c member
          simp only [List.mem_cons] at member
          rcases member with rfl | rfl | rfl | rfl | member
          any_goals decide
          rcases Punycode.mem_encode member with ⟨inside, ascii⟩ | rfl | digit
          · exact ⟨ascii, free c inside⟩
          · decide
          · exact digits c (by simp [digit])
        · cases read

theorem mem_intercalate {sep : Char} {parts : List (List Char)} (member : c ∈ List.intercalate [sep] parts) :
    c = sep ∨ ∃ part ∈ parts, c ∈ part := by
  induction parts with
  | nil => cases member
  | cons part parts ih =>
    cases parts with
    | nil =>
      rw [List.intercalate_singleton] at member
      exact .inr ⟨part, List.mem_cons_self, member⟩
    | cons next parts =>
      rcases List.mem_append.1 member with here | member
      · exact .inr ⟨part, List.mem_cons_self, here⟩
      · rcases List.mem_cons.1 member with between | later
        · exact .inl between
        · rcases ih later with between | ⟨found, among, holds⟩
          · exact .inl between
          · exact .inr ⟨found, List.mem_cons_of_mem part among, holds⟩

theorem plain_asciiDomain? {domain : List Char} (read : asciiDomain? cs = some domain) : IsPlain domain := by
  obtain ⟨folded, _, read⟩ := Option.bind_eq_some_iff.1 read
  obtain ⟨labels, found, read⟩ := Option.bind_eq_some_iff.1 read
  have written : ∀ l ∈ labels, IsPlain l.written := by
    intro l member
    obtain ⟨label, _, here⟩ := exists_of_mapM_eq_some found l member
    exact plain_written here
  split at read
  · cases read
    intro c member
    rcases mem_intercalate member with rfl | ⟨label, among, holds⟩
    · decide
    · obtain ⟨l, inside, rfl⟩ := List.mem_map.1 among
      exact written l inside c holds
  · cases read

end Written

section Hosts

theorem not_bracket (plain : IsPlain cs) : cs.head? ≠ some '[' := by
  intro bracket
  have allowed := (plain '[' (List.mem_of_head? bracket)).2
  exact absurd allowed (by decide)

theorem readDomainHost_plain (plain : IsPlain cs) (unmarked : IsUnmarked (cs.map Char.toLower)) (nonempty : cs ≠ []) :
    readDomainHost cs =
      if endsInNumber (cs.map Char.toLower) then
        match ipv4? (cs.map Char.toLower) with
        | some n => .ok (writeIpv4 n)
        | none => .error .invalidIpv4
      else .ok (String.ofList (cs.map Char.toLower)) := by
  obtain ⟨c, rest, rfl⟩ := List.exists_cons_of_ne_nil nonempty
  rw [readDomainHost, if_neg (not_bracket plain), decode?_plain plain, Option.bind_some,
    asciiDomain?_plain plain unmarked]
  rfl

end Hosts

end Harvest.Url
