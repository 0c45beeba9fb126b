import Harvest.Proofs.Url.Domain
import Mathlib.Data.List.TakeWhile

/-!
Addresses as hosts, read again after they were written. The numbers of both kinds of addresses are found again, and so
are the zeros that a double colon stands for.
-/

namespace Harvest.Url

variable {cs : List Char} {c : Char} {base n : Nat} {gs : List Nat}

section Numbers

theorem exists_of_mem_toDigits (large : 1 < base) (member : c ∈ Nat.toDigits base n) :
    ∃ d < base, c = Nat.digitChar d := by
  induction n using Nat.strongRecOn with
  | ind n ih =>
    rcases Nat.lt_or_ge n base with small | more
    · rw [Nat.toDigits_of_lt_base small, List.mem_singleton] at member
      exact ⟨n, small, member⟩
    · rw [Nat.toDigits_of_base_le large more, List.mem_append, List.mem_singleton] at member
      rcases member with front | last
      · exact ih (n / base) (Nat.div_lt_self (by omega) large) front
      · exact ⟨n % base, Nat.mod_lt n (by omega), last⟩

theorem numberIn?_append (front : List Char) (c : Char) :
    numberIn? base (front ++ [c]) =
      (numberIn? base front).bind fun n => (digitIn? base c).map (n * base + ·) := by
  simp only [numberIn?, List.foldlM_append, List.foldlM_cons, List.foldlM_nil, Option.bind_eq_bind, Option.pure_def,
    Option.bind_fun_some]

theorem numberIn?_toDigits (large : 1 < base) (digits : ∀ d < base, digitIn? base (Nat.digitChar d) = some d)
    (n : Nat) : numberIn? base (Nat.toDigits base n) = some n := by
  induction n using Nat.strongRecOn with
  | ind n ih =>
    rcases Nat.lt_or_ge n base with small | more
    · rw [Nat.toDigits_of_lt_base small, ← List.nil_append [n.digitChar], numberIn?_append, digits n small]
      simp [numberIn?]
    · have front := ih (n / base) (Nat.div_lt_self (by omega) large)
      have last := digits (n % base) (Nat.mod_lt n (by omega))
      rw [Nat.toDigits_of_base_le large more, numberIn?_append, front, last, Option.bind_some, Option.map_some,
        Nat.mul_comm, Nat.div_add_mod]

theorem digitIn?_lt {d : Nat} (read : digitIn? base c = some d) : d < base := by
  simpa using (Option.filter_eq_some_iff.1 read).2

theorem numberIn?_lt (read : numberIn? base cs = some n) : n < Nat.pow base cs.length := by
  induction cs using List.reverseRecOn generalizing n with
  | nil =>
    obtain rfl := Option.some.inj read
    exact Nat.one_pos
  | append_singleton front c ih =>
    rw [numberIn?_append] at read
    obtain ⟨m, before, read⟩ := Option.bind_eq_some_iff.1 read
    obtain ⟨d, digit, rfl⟩ := Option.map_eq_some_iff.1 read
    have bound := ih before
    have small := digitIn?_lt digit
    rw [List.length_append, List.length_singleton]
    calc m * base + d < m * base + base := Nat.add_lt_add_left small _
      _ = (m + 1) * base := (Nat.succ_mul m base).symm
      _ ≤ Nat.pow base front.length * base := Nat.mul_le_mul_right base bound

end Numbers

section Ipv4

/-- The numbers in which an address of four bytes is written. -/
def bytesOf (n : Nat) : List Nat := [n / 16777216 % 256, n / 65536 % 256, n / 256 % 256, n % 256]

def writeBytes (bytes : List Nat) : List Char := joinLabels (bytes.map (Nat.toDigits 10))

theorem writeBytes_ne_nil (n : Nat) : writeBytes (bytesOf n) ≠ [] := by
  simp [writeBytes, joinLabels, bytesOf]

theorem toList_writeIpv4 (n : Nat) : (writeIpv4 n).toList = writeBytes (bytesOf n) := by
  simp [writeIpv4, writeBytes, bytesOf, joinLabels, toString, Nat.toList_repr, String.toList_append]

theorem bytesOf_lt : ∀ b ∈ bytesOf n, b < 256 := by
  simp only [bytesOf, List.mem_cons, List.not_mem_nil, or_false]
  omega

theorem ipv4Number?_byte : ∀ b < 256, ipv4Number? (Nat.toDigits 10 b) = some b := by decide +kernel

theorem ipv4OfNumbers_four {a b c d : Nat} (a_lt : a < 256) (b_lt : b < 256) (c_lt : c < 256) (d_lt : d < 256) :
    ipv4OfNumbers [a, b, c, d] = some (((a * 256 + b) * 256 + c) * 256 + d) := by
  have small : ¬(3 > 3 ∨ [c, b, a].any (· > 255) ∨ d ≥ Nat.pow 256 (4 - 3)) := by
    simp
    omega
  exact (if_neg small).trans (by simp)

theorem ipv4OfNumbers_bytesOf (n : Nat) : ∃ m, ipv4OfNumbers (bytesOf n) = some m ∧ bytesOf m = bytesOf n := by
  refine ⟨_, ipv4OfNumbers_four (Nat.mod_lt _ (by decide)) (Nat.mod_lt _ (by decide)) (Nat.mod_lt _ (by decide))
    (Nat.mod_lt _ (by decide)), ?_⟩
  simp only [bytesOf, List.cons.injEq, and_true]
  omega

theorem isDigit_of_mem_bytes {label : List Char} (member : label ∈ (bytesOf n).map (Nat.toDigits 10)) :
    ∀ c ∈ label, c.isDigit = true := by
  obtain ⟨b, _, rfl⟩ := List.mem_map.1 member
  exact fun c inside => Nat.isDigit_of_mem_toDigits (by decide) (by decide) inside

theorem digit_plain (digit : c.isDigit = true) :
    (c.toNat < 128 ∧ isForbidden c = false) ∧ c.toLower = c ∧ c ≠ '.' ∧ c ≠ 'x' := by
  have ascii : c.toNat < 128 := by
    simp only [Char.isDigit, Bool.and_eq_true, decide_eq_true_eq] at digit
    exact Nat.lt_of_le_of_lt digit.2 (by decide)
  have all : ∀ c : Char, c.toNat < 128 → c.isDigit = true →
      isForbidden c = false ∧ c.toLower = c ∧ c ≠ '.' ∧ c ≠ 'x' := Text.forall_ascii (by decide)
  obtain ⟨allowed, rest⟩ := all c ascii digit
  exact ⟨⟨ascii, allowed⟩, rest⟩

theorem splitAt_writeBytes (n : Nat) : splitAt '.' (writeBytes (bytesOf n)) = (bytesOf n).map (Nat.toDigits 10) := by
  have apart : ∀ label ∈ (bytesOf n).map (Nat.toDigits 10), '.' ∉ label := by
    intro label member inside
    exact (digit_plain (isDigit_of_mem_bytes member '.' inside)).2.2.1 rfl
  rw [splitAt_eq_splitOn, writeBytes, joinLabels, List.splitOn_intercalate '.' apart (by simp [bytesOf])]

theorem ipv4Parts_writeBytes (n : Nat) : ipv4Parts (writeBytes (bytesOf n)) = (bytesOf n).map (Nat.toDigits 10) := by
  have last : ((bytesOf n).map (Nat.toDigits 10)).getLast? ≠ some [] := by
    simp [bytesOf, Nat.toDigits_ne_nil]
  simp only [ipv4Parts, splitAt_writeBytes, if_neg (mt And.right last)]

theorem plain_of_mem_writeBytes (member : c ∈ writeBytes (bytesOf n)) :
    (c.toNat < 128 ∧ isForbidden c = false) ∧ c.toLower = c := by
  rcases mem_intercalate member with rfl | ⟨label, among, inside⟩
  · decide
  · obtain ⟨plain, lower, _⟩ := digit_plain (isDigit_of_mem_bytes among c inside)
    exact ⟨plain, lower⟩

theorem lower_writeBytes (n : Nat) : (writeBytes (bytesOf n)).map Char.toLower = writeBytes (bytesOf n) := by
  have same := List.map_congr_left (l := writeBytes (bytesOf n)) (f := Char.toLower) (g := id)
    fun c member => (plain_of_mem_writeBytes member).2
  rw [same, List.map_id]

theorem unmarked_writeBytes (n : Nat) : IsUnmarked (writeBytes (bytesOf n)) := by
  intro label member
  rw [splitAt_writeBytes] at member
  have digits := isDigit_of_mem_bytes member
  unfold afterMark?
  split
  · exact absurd rfl (digit_plain (digits 'x' List.mem_cons_self)).2.2.2
  · rfl

theorem endsInNumber_writeBytes (n : Nat) : endsInNumber (writeBytes (bytesOf n)) = true := by
  have last : (ipv4Parts (writeBytes (bytesOf n))).getLast? = some (Nat.toDigits 10 (n % 256)) := by
    rw [ipv4Parts_writeBytes]
    rfl
  have digits : (Nat.toDigits 10 (n % 256)).all Char.isDigit = true :=
    List.all_eq_true.2 fun c member => Nat.isDigit_of_mem_toDigits (by decide) (by decide) member
  rw [endsInNumber, last]
  split
  · rename_i none
    cases none
  · rename_i empty
    exact absurd (Option.some.inj empty) Nat.toDigits_ne_nil
  · rename_i found
    cases found
    rw [digits, Bool.true_or]

theorem ipv4?_writeBytes (n : Nat) : ∃ m, ipv4? (writeBytes (bytesOf n)) = some m ∧ bytesOf m = bytesOf n := by
  obtain ⟨m, read, same⟩ := ipv4OfNumbers_bytesOf n
  have numbers : ((bytesOf n).map (Nat.toDigits 10)).mapM ipv4Number? = some (bytesOf n) :=
    mapM_map_eq_some fun b member => ipv4Number?_byte b (bytesOf_lt b member)
  refine ⟨m, ?_, same⟩
  rw [ipv4?, ipv4Parts_writeBytes, numbers]
  exact read

/-- An address of four bytes is read again as it is written. -/
theorem readDomainHost_writeIpv4 (n : Nat) : readDomainHost (writeIpv4 n).toList = .ok (writeIpv4 n) := by
  obtain ⟨m, read, same⟩ := ipv4?_writeBytes n
  have plain : IsPlain (writeBytes (bytesOf n)) := fun c member => (plain_of_mem_writeBytes member).1
  have unmarked : IsUnmarked ((writeBytes (bytesOf n)).map Char.toLower) := by
    rw [lower_writeBytes]
    exact unmarked_writeBytes n
  have written : writeIpv4 m = writeIpv4 n := by
    rw [← String.toList_inj, toList_writeIpv4, toList_writeIpv4, same]
  rw [toList_writeIpv4, readDomainHost_plain plain unmarked (writeBytes_ne_nil n), lower_writeBytes,
    if_pos (endsInNumber_writeBytes n), read]
  exact congrArg Except.ok written

end Ipv4

section Ipv6

/-- The digits of groups. -/
def hexDigits : List Char := (List.range 16).map Nat.digitChar

/-- The text of groups with colons between them. -/
def writeGroups (gs : List Nat) : List Char := List.intercalate [':'] (gs.map (Nat.toDigits 16))

/-- Every group fits in two bytes. -/
def AreGroups (gs : List Nat) : Prop := ∀ g ∈ gs, g < 65536

theorem toList_joinGroups (gs : List Nat) : (joinGroups gs).toList = writeGroups gs := by
  simp [joinGroups, writeGroups, String.toList_intercalate, Function.comp_def]

theorem mem_toDigits_hex {g : Nat} (member : c ∈ Nat.toDigits 16 g) : c ∈ hexDigits := by
  obtain ⟨d, small, rfl⟩ := exists_of_mem_toDigits (by decide) member
  exact List.mem_map_of_mem (List.mem_range.2 small)

theorem hex_of_mem {label : List Char} (member : label ∈ gs.map (Nat.toDigits 16)) : ∀ c ∈ label, c ∈ hexDigits := by
  obtain ⟨g, _, rfl⟩ := List.mem_map.1 member
  exact fun c inside => mem_toDigits_hex inside

theorem hex_apart : ∀ c ∈ hexDigits, c ≠ ':' ∧ c ≠ '.' := Text.forall_chars (by decide)

theorem colon_not_mem {label : List Char} (member : label ∈ gs.map (Nat.toDigits 16)) : ':' ∉ label :=
  fun inside => (hex_apart ':' (hex_of_mem member ':' inside)).1 rfl

theorem splitAt_writeGroups (nonempty : gs ≠ []) : splitAt ':' (writeGroups gs) = gs.map (Nat.toDigits 16) := by
  rw [splitAt_eq_splitOn, writeGroups]
  exact List.splitOn_intercalate ':' (fun label member => colon_not_mem member) (by simpa using nonempty)

theorem digitIn?_hex : ∀ d < 16, digitIn? 16 (Nat.digitChar d) = some d := by decide

theorem group?_toDigits {g : Nat} (small : g < 65536) : group? (Nat.toDigits 16 g) = some g := by
  have short : (Nat.toDigits 16 g).length ≤ 4 := (Nat.length_toDigits_le_iff (by decide) (by decide)).2 small
  have fits : ¬((Nat.toDigits 16 g).isEmpty = true ∨ (Nat.toDigits 16 g).length > 4) := by
    simp [Nat.toDigits_ne_nil, short]
  rw [group?, if_neg fits]
  exact numberIn?_toDigits (by decide) digitIn?_hex g

theorem groups?_writeGroups (last : Bool) (groups : AreGroups gs) (nonempty : gs ≠ []) :
    groups? last (writeGroups gs) = some gs := by
  have read : (gs.map (Nat.toDigits 16)).mapM group? = some gs :=
    mapM_map_eq_some fun g member => group?_toDigits (groups g member)
  simp only [groups?, splitAt_writeGroups nonempty]
  split
  · rename_i label ending
    have no_point : ¬label.contains '.' = true := by
      rw [List.contains_iff_mem]
      intro inside
      exact (hex_apart '.' (hex_of_mem (List.mem_of_getLast? ending) '.' inside)).2 rfl
    rw [if_neg no_point, read]
  · exact read

theorem writeGroups_cons (g h : Nat) (gs : List Nat) :
    writeGroups (g :: h :: gs) = Nat.toDigits 16 g ++ ':' :: writeGroups (h :: gs) := rfl

theorem writeGroups_singleton (g : Nat) : writeGroups [g] = Nat.toDigits 16 g := by
  simp [writeGroups]

theorem writeGroups_starts (g : Nat) (gs : List Nat) : ∃ d more, writeGroups (g :: gs) = d :: more ∧ d ≠ ':' := by
  obtain ⟨d, digits, starts⟩ := List.exists_cons_of_ne_nil (Nat.toDigits_ne_nil (b := 16) (n := g))
  have hex : d ∈ Nat.toDigits 16 g := starts ▸ List.mem_cons_self
  have other := (hex_apart d (mem_toDigits_hex hex)).1
  cases gs with
  | nil => exact ⟨d, digits, by rw [writeGroups_singleton, starts], other⟩
  | cons h gs => exact ⟨d, _, by rw [writeGroups_cons, starts, List.cons_append], other⟩

theorem writeGroups_eq_nil : writeGroups gs = [] ↔ gs = [] := by
  cases gs with
  | nil => simp [writeGroups]
  | cons g gs =>
    obtain ⟨d, more, starts, _⟩ := writeGroups_starts g gs
    simp [starts]

theorem side?_writeGroups (last : Bool) (groups : AreGroups gs) : side? last (writeGroups gs) = some gs := by
  by_cases empty : gs = []
  · subst empty
    rfl
  · rw [side?, if_neg (by simpa [writeGroups_eq_nil] using empty)]
    exact groups?_writeGroups last groups empty

theorem cutDoubleColon_append {label : List Char} (no_colon : ':' ∉ label) (rest : List Char) :
    cutDoubleColon (label ++ rest) = (cutDoubleColon rest).map fun (a, b) => (label ++ a, b) := by
  induction label with
  | nil => simp
  | cons c label ih =>
    rw [List.mem_cons, not_or] at no_colon
    rw [List.cons_append, cutDoubleColon, ih no_colon.2, Option.map_map]
    · rfl
    · rintro more rfl
      exact absurd rfl no_colon.1

theorem cutDoubleColon_colon {d : Char} (other : d ≠ ':') (rest : List Char) :
    cutDoubleColon (':' :: d :: rest) = (cutDoubleColon (d :: rest)).map fun (a, b) => (':' :: a, b) := by
  rw [cutDoubleColon]
  rintro more _ starts
  exact other (List.cons.inj starts).1

/-- No double colon stands between groups. -/
theorem cutDoubleColon_writeGroups (gs : List Nat) (rest : List Char) :
    cutDoubleColon (writeGroups gs ++ rest) = (cutDoubleColon rest).map fun (a, b) => (writeGroups gs ++ a, b) := by
  induction gs with
  | nil => simp [writeGroups]
  | cons g gs ih =>
    have no_colon : ':' ∉ Nat.toDigits 16 g := fun inside => (hex_apart ':' (mem_toDigits_hex inside)).1 rfl
    cases gs with
    | nil =>
      rw [writeGroups_singleton]
      exact cutDoubleColon_append no_colon rest
    | cons h gs =>
      obtain ⟨d, more, starts, other⟩ := writeGroups_starts h gs
      rw [writeGroups_cons, List.append_assoc, cutDoubleColon_append no_colon, List.cons_append, starts,
        List.cons_append, cutDoubleColon_colon other, ← List.cons_append, ← starts, ih]
      simp [Function.comp_def]

/-- A run of zeros: where it starts, and its length. -/
def AreZeros (gs : List Nat) (run : Nat × Nat) : Prop := (gs.drop run.1).take run.2 = List.replicate run.2 0

theorem zeroRun_zeros (gs : List Nat) : gs.take (zeroRun gs) = List.replicate (zeroRun gs) 0 := by
  have front : gs.take (zeroRun gs) = gs.takeWhile (· = 0) := (List.prefix_iff_eq_take.1 (List.takeWhile_prefix _)).symm
  rw [front, List.eq_replicate_iff]
  exact ⟨rfl, fun g member => by simpa using List.mem_takeWhile_imp member⟩

theorem longestZeros_zeros (gs front : List Nat) {best : Nat × Nat} (zeros : AreZeros (front ++ gs) best) :
    AreZeros (front ++ gs) (longestZeros front.length best gs) := by
  induction gs generalizing front best with
  | nil => exact zeros
  | cons g gs ih =>
    have next : AreZeros (front ++ g :: gs)
        (if zeroRun (g :: gs) > best.2 then (front.length, zeroRun (g :: gs)) else best) := by
      split
      · rw [AreZeros, List.drop_left]
        exact zeroRun_zeros (g :: gs)
      · exact zeros
    rw [List.append_cons] at next ⊢
    have later := ih (front ++ [g]) next
    rwa [List.length_append, List.length_singleton] at later

/-- What stands between the brackets of an address. -/
def ipv6Text (gs : List Nat) : List Char :=
  let run := longestZeros 0 (0, 0) gs
  if run.2 < 2 then writeGroups gs
  else writeGroups (gs.take run.1) ++ ':' :: ':' :: writeGroups (gs.drop (run.1 + run.2))

theorem toList_writeIpv6 (gs : List Nat) : (writeIpv6 gs).toList = '[' :: (ipv6Text gs ++ [']']) := by
  simp only [writeIpv6, ipv6Text]
  split <;> simp [toList_joinGroups]

/-- The groups of an address are found again, those that a double colon stands for among them. -/
theorem ipv6?_ipv6Text (eight : gs.length = 8) (groups : AreGroups gs) : ipv6? (ipv6Text gs) = some gs := by
  have nonempty : gs ≠ [] := by
    rintro rfl
    cases eight
  have zeros : AreZeros gs (longestZeros 0 (0, 0) gs) := longestZeros_zeros gs [] rfl
  generalize run_eq : longestZeros 0 (0, 0) gs = run at zeros
  simp only [ipv6Text, run_eq]
  split
  · have no_cut := cutDoubleColon_writeGroups gs []
    rw [List.append_nil] at no_cut
    rw [ipv6?, no_cut]
    simp only [cutDoubleColon, Option.map_none, groups?_writeGroups true groups nonempty]
    simp [eight]
  · have before : AreGroups (gs.take run.1) := fun g member => groups g (List.mem_of_mem_take member)
    have after : AreGroups (gs.drop (run.1 + run.2)) := fun g member => groups g (List.mem_of_mem_drop member)
    have whole : gs.take run.1 ++ List.replicate run.2 0 ++ gs.drop (run.1 + run.2) = gs := by
      rw [← zeros, ← List.drop_drop, List.append_assoc, List.take_append_drop, List.take_append_drop]
    have within : run.1 + run.2 ≤ 8 := by
      have length := congrArg List.length zeros
      simp only [List.length_take, List.length_drop, List.length_replicate, eight] at length
      omega
    have rest : 8 - (gs.take run.1).length - (gs.drop (run.1 + run.2)).length = run.2 := by
      simp only [List.length_take, List.length_drop, eight]
      omega
    have fewer : (gs.take run.1).length + (gs.drop (run.1 + run.2)).length ≤ 7 := by
      simp only [List.length_take, List.length_drop, eight]
      omega
    rw [ipv6?, cutDoubleColon_writeGroups]
    simp only [cutDoubleColon, Option.map_some, List.append_nil, side?_writeGroups false before,
      side?_writeGroups true after, Option.bind_eq_bind, Option.bind_some, if_pos fewer, rest, whole]
    rfl

theorem group?_lt {g : Nat} (read : group? cs = some g) : g < 65536 := by
  unfold group? at read
  split at read
  · cases read
  · rename_i fits
    have short : cs.length ≤ 4 := by
      rw [not_or] at fits
      omega
    calc g < Nat.pow 16 cs.length := numberIn?_lt read
      _ ≤ Nat.pow 16 4 := Nat.pow_le_pow_right (by decide) short

theorem plainByte?_lt (read : plainByte? cs = some n) : n < 256 := by
  unfold plainByte? at read
  split at read
  · cases read
    decide
  · cases read
  · cases read
  · have le := (Option.filter_eq_some_iff.1 read).2
    exact Nat.lt_succ_of_le (of_decide_eq_true le)

theorem mapM_group?_groups {parts : List (List Char)} (read : parts.mapM group? = some gs) : AreGroups gs := by
  intro g member
  obtain ⟨part, _, found⟩ := exists_of_mapM_eq_some read g member
  exact group?_lt found

theorem groups?_groups {last : Bool} (read : groups? last cs = some gs) : AreGroups gs := by
  simp only [groups?] at read
  split at read
  · split at read
    · obtain ⟨front, groups, read⟩ := Option.bind_eq_some_iff.1 read
      obtain ⟨bytes, parts, read⟩ := Option.bind_eq_some_iff.1 read
      have small : ∀ b ∈ bytes, b < 256 := by
        intro b member
        obtain ⟨part, _, found⟩ := exists_of_mapM_eq_some parts b member
        exact plainByte?_lt found
      split at read
      · cases read
        simp only [List.mem_cons, List.not_mem_nil, or_false, forall_eq_or_imp, forall_eq] at small
        intro g member
        rcases List.mem_append.1 member with before | pair
        · exact mapM_group?_groups groups g before
        · simp only [List.mem_cons, List.not_mem_nil, or_false] at pair
          omega
      · cases read
    · exact mapM_group?_groups read
  · exact mapM_group?_groups read

theorem side?_groups {last : Bool} (read : side? last cs = some gs) : AreGroups gs := by
  unfold side? at read
  split at read
  · cases read
    exact nofun
  · exact groups?_groups read

theorem ipv6?_groups (read : ipv6? cs = some gs) : gs.length = 8 ∧ AreGroups gs := by
  unfold ipv6? at read
  split at read
  · obtain ⟨found, eight⟩ := Option.filter_eq_some_iff.1 read
    exact ⟨of_decide_eq_true eight, groups?_groups found⟩
  · obtain ⟨a, before, read⟩ := Option.bind_eq_some_iff.1 read
    obtain ⟨b, after, read⟩ := Option.bind_eq_some_iff.1 read
    split at read
    · cases read
      refine ⟨by simp; omega, ?_⟩
      intro g member
      rcases List.mem_append.1 member with front | later
      · rcases List.mem_append.1 front with first | zero
        · exact side?_groups before g first
        · obtain ⟨_, rfl⟩ := List.mem_replicate.1 zero
          decide
      · exact side?_groups after g later
    · cases read

theorem readIpv6_writeIpv6 (eight : gs.length = 8) (groups : AreGroups gs) :
    readIpv6 (writeIpv6 gs).toList = .ok (writeIpv6 gs) := by
  have inside : bracketed? (writeIpv6 gs).toList = some (ipv6Text gs) := by
    simp [toList_writeIpv6, bracketed?]
  rw [readIpv6, inside, Option.bind_some, ipv6?_ipv6Text eight groups]

/-- An address in brackets is read again as it is written. -/
theorem readIpv6_again {host : String} (read : readIpv6 cs = .ok host) :
    host.toList.head? = some '[' ∧ readIpv6 host.toList = .ok host ∧ ∃ gs, host = writeIpv6 gs := by
  unfold readIpv6 at read
  split at read
  · rename_i gs found
    cases read
    obtain ⟨inner, _, found⟩ := Option.bind_eq_some_iff.1 found
    obtain ⟨eight, groups⟩ := ipv6?_groups found
    exact ⟨by rw [toList_writeIpv6]; rfl, readIpv6_writeIpv6 eight groups, gs, rfl⟩
  · cases read

end Ipv6

end Harvest.Url
