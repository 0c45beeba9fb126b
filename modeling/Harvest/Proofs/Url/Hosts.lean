import Harvest.Proofs.Url.Addresses
import Harvest.Proofs.Url.Characters

/-!
Hosts that are read again. A host is an address in brackets, or a text without the signs that part a URL; the hosts
that are no domains with marked labels are read again from their own text.
-/

namespace Harvest.Url

variable {cs : List Char} {c : Char} {base : Nat} {host : String}

section Letters

theorem isDigit_toLower : ∀ c : Char, c.toNat < 128 → c.toLower.isDigit = c.isDigit := Text.forall_ascii (by decide)

theorem toLower_eq_iff : ∀ c : Char, c.toNat < 128 →
    (c.toLower = '.' ↔ c = '.') ∧ (c.toLower = '0' ↔ c = '0') ∧
      (c.toLower = 'x' ∨ c.toLower = 'X' ↔ c = 'x' ∨ c = 'X') :=
  Text.forall_ascii (by decide)

theorem digitIn?_toLower : ∀ base ∈ [8, 10, 16], ∀ c : Char, c.toNat < 128 →
    digitIn? base c.toLower = digitIn? base c := by
  intro base member
  apply Text.forall_ascii
  revert base
  decide

theorem numberIn?_lower (notation_base : base ∈ [8, 10, 16]) (ascii : ∀ c ∈ cs, c.toNat < 128) :
    numberIn? base (cs.map Char.toLower) = numberIn? base cs := by
  induction cs using List.reverseRecOn with
  | nil => rfl
  | append_singleton front c ih =>
    have before := ih fun d member => ascii d (List.mem_append_left _ member)
    have last := digitIn?_toLower base notation_base c (ascii c (List.mem_append_right _ List.mem_cons_self))
    rw [List.map_append, List.map_singleton, numberIn?_append, numberIn?_append, before, last]

theorem splitAt_lower (ascii : ∀ c ∈ cs, c.toNat < 128) :
    splitAt '.' (cs.map Char.toLower) = (splitAt '.' cs).map (·.map Char.toLower) := by
  induction cs with
  | nil => rfl
  | cons c cs ih =>
    have later := ih fun d member => ascii d (List.mem_cons_of_mem c member)
    have point := (toLower_eq_iff c (ascii c List.mem_cons_self)).1
    simp only [List.map_cons, splitAt, point, later]
    split
    · rfl
    · cases splitAt '.' cs <;> rfl

theorem ipv4Number?_singleton (c : Char) : ipv4Number? [c] = numberIn? 10 [c] := by
  unfold ipv4Number?
  split <;> simp_all

/-- In which notation a number of two characters or more is written. -/
theorem ipv4Number?_cons (c d : Char) (rest : List Char) : ipv4Number? (c :: d :: rest) =
    if c = '0' then if d = 'x' ∨ d = 'X' then numberIn? 16 rest else numberIn? 8 (d :: rest)
    else numberIn? 10 (c :: d :: rest) := by
  unfold ipv4Number?
  split <;> simp_all

theorem ipv4Number?_lower (ascii : ∀ c ∈ cs, c.toNat < 128) :
    ipv4Number? (cs.map Char.toLower) = ipv4Number? cs := by
  match cs with
  | [] => rfl
  | [c] =>
    rw [List.map_singleton, ipv4Number?_singleton, ipv4Number?_singleton]
    exact numberIn?_lower (by decide) ascii
  | c :: d :: rest =>
    obtain ⟨_, zero, _⟩ := toLower_eq_iff c (ascii c List.mem_cons_self)
    obtain ⟨_, _, cross⟩ := toLower_eq_iff d (ascii d (by simp))
    have hexadecimal : numberIn? 16 (rest.map Char.toLower) = numberIn? 16 rest :=
      numberIn?_lower (by decide) fun e member => ascii e (by simp [member])
    have octal : numberIn? 8 ((d :: rest).map Char.toLower) = numberIn? 8 (d :: rest) :=
      numberIn?_lower (by decide) fun e member => ascii e (List.mem_cons_of_mem c member)
    have decimal : numberIn? 10 ((c :: d :: rest).map Char.toLower) = numberIn? 10 (c :: d :: rest) :=
      numberIn?_lower (by decide) ascii
    simp only [List.map_cons] at octal decimal ⊢
    simp only [ipv4Number?_cons, zero, cross, hexadecimal, octal, decimal]

theorem ipv4Parts_lower (ascii : ∀ c ∈ cs, c.toNat < 128) :
    ipv4Parts (cs.map Char.toLower) = (ipv4Parts cs).map (·.map Char.toLower) := by
  simp only [ipv4Parts, splitAt_lower ascii, List.length_map, List.getLast?_map, Option.map_eq_some_iff,
    List.map_eq_nil_iff, exists_eq_right]
  split
  · exact List.map_dropLast.symm
  · rfl

theorem ipv4Parts_subset (cs : List Char) : ipv4Parts cs ⊆ splitAt '.' cs := by
  simp only [ipv4Parts]
  split
  · exact List.dropLast_subset _
  · exact List.Subset.refl _

theorem endsInNumber_lower (ascii : ∀ c ∈ cs, c.toNat < 128) :
    endsInNumber (cs.map Char.toLower) = endsInNumber cs := by
  rw [endsInNumber, endsInNumber, ipv4Parts_lower ascii, List.getLast?_map]
  cases last : (ipv4Parts cs).getLast? with
  | none => rfl
  | some part =>
    have inside : ∀ c ∈ part, c.toNat < 128 :=
      fun c member => ascii c (mem_of_mem_splitAt (ipv4Parts_subset cs (List.mem_of_getLast? last)) member)
    cases part with
    | nil => rfl
    | cons c part =>
      have digits : ((c :: part).map Char.toLower).all Char.isDigit = (c :: part).all Char.isDigit := by
        rw [List.all_map, Bool.eq_iff_iff, List.all_eq_true, List.all_eq_true]
        exact forall₂_congr fun d member => by rw [Function.comp_apply, isDigit_toLower d (inside d member)]
      have number := ipv4Number?_lower inside
      simp only [Option.map_some, List.map_cons] at digits number ⊢
      rw [digits, number]

end Letters

section Domains

/-- A host of a special scheme: an address of either kind, or a domain that is not read as an address. -/
inductive DomainHost : String → Prop
  | ipv6 {gs : List Nat} (again : readIpv6 (writeIpv6 gs).toList = .ok (writeIpv6 gs)) : DomainHost (writeIpv6 gs)
  | ipv4 (n : Nat) : DomainHost (writeIpv4 n)
  | domain {domain : List Char} (plain : IsPlain domain) (nonempty : domain ≠ [])
      (named : endsInNumber domain = false) : DomainHost (String.ofList domain)

theorem domainHost_of_read (read : readDomainHost cs = .ok host) : DomainHost host := by
  unfold readDomainHost at read
  split at read
  · obtain ⟨_, again, gs, rfl⟩ := readIpv6_again read
    exact .ipv6 again
  · split at read
    · cases read
    · cases read
    · rename_i domain nonempty found
      obtain ⟨decoded, _, found⟩ := Option.bind_eq_some_iff.1 found
      have plain := plain_asciiDomain? found
      split at read
      · split at read
        · cases read
          exact .ipv4 _
        · cases read
      · rename_i named
        cases read
        exact .domain plain (fun empty => nonempty empty) (by simpa using named)

/-- A host of a special scheme is read again, if it is no domain with a marked label. -/
theorem DomainHost.again (known : DomainHost host) (unmarked : IsUnmarked (host.toList.map Char.toLower)) :
    ∃ h, readDomainHost host.toList = .ok h := by
  cases known with
  | @ipv6 gs again =>
    have bracket : (writeIpv6 gs).toList.head? = some '[' := by
      rw [toList_writeIpv6]
      rfl
    exact ⟨_, by rw [readDomainHost, if_pos bracket, again]⟩
  | ipv4 n => exact ⟨_, readDomainHost_writeIpv4 n⟩
  | domain plain nonempty named =>
    rw [String.toList_ofList] at unmarked ⊢
    rw [readDomainHost_plain plain unmarked nonempty, endsInNumber_lower fun c member => (plain c member).1, named]
    exact ⟨_, rfl⟩

end Domains

section Signs

/-- The signs that part a URL, or that stand around an address. -/
def hostSigns : List Char := ['/', '\\', '?', '#', '@', ':', '[', ']', '|']

/-- The text of a host: a name without signs, or an address in brackets. -/
inductive IsHost : List Char → Prop
  | name {cs : List Char} (free : ∀ c ∈ cs, ' ' < c ∧ c ∉ hostSigns) : IsHost cs
  | address {cs : List Char} (free : ∀ c ∈ cs, c = ':' ∨ c ∈ hexDigits) : IsHost ('[' :: (cs ++ [']']))

theorem IsPlain.isHost (plain : IsPlain cs) : IsHost cs := by
  have all : ∀ c : Char, c.toNat < 128 → isForbidden c = false → ' ' < c ∧ c ∉ hostSigns :=
    Text.forall_ascii (by decide)
  exact .name fun c member => all c (plain c member).1 (plain c member).2

theorem mem_writeGroups {gs : List Nat} (member : c ∈ writeGroups gs) : c = ':' ∨ c ∈ hexDigits := by
  rcases mem_intercalate member with rfl | ⟨label, among, inside⟩
  · exact .inl rfl
  · exact .inr (hex_of_mem among c inside)

theorem isHost_writeIpv6 (gs : List Nat) : IsHost (writeIpv6 gs).toList := by
  rw [toList_writeIpv6]
  refine .address fun c member => ?_
  simp only [ipv6Text] at member
  split at member
  · exact mem_writeGroups member
  · rcases List.mem_append.1 member with before | colon | ⟨_, colon | ⟨_, after⟩⟩
    · exact mem_writeGroups before
    · exact .inl rfl
    · exact .inl rfl
    · exact mem_writeGroups after

theorem DomainHost.isHost (known : DomainHost host) : IsHost host.toList := by
  cases known with
  | ipv6 => exact isHost_writeIpv6 _
  | ipv4 n =>
    rw [toList_writeIpv4]
    exact IsPlain.isHost fun c member => (plain_of_mem_writeBytes member).1
  | domain plain =>
    rw [String.toList_ofList]
    exact plain.isHost

theorem DomainHost.ne_empty (known : DomainHost host) : host ≠ "" := by
  rw [Ne, ← String.toList_eq_nil_iff]
  cases known with
  | ipv6 => simp [toList_writeIpv6]
  | ipv4 n => 
    rw [toList_writeIpv4]
    exact writeBytes_ne_nil n
  | domain _ nonempty => rwa [String.toList_ofList]

theorem encode_idempotent {set : Char → Bool} (codes : ∀ c ∈ codeChars, set c = false) (cs : List Char) :
    encode set (encode set cs) = encode set cs := by
  have free : ∀ c ∈ encode set cs, set c = false := forall_mem_encode (fun c _ free => free) codes
  have each : ∀ c ∈ encode set cs, (if set c then encodeChar c else [c]) = [c] :=
    fun c member => if_neg (by simp [free c member])
  rw [encode, List.flatMap_congr each, List.flatMap_singleton']

/-- The host of another scheme is read again as it is. -/
theorem readOpaqueHost_again (read : readOpaqueHost cs = .ok host) :
    readOpaqueHost host.toList = .ok host ∧ IsHost host.toList := by
  unfold readOpaqueHost at read
  split at read
  · obtain ⟨bracket, again, gs, rfl⟩ := readIpv6_again read
    exact ⟨by rw [readOpaqueHost, if_pos bracket, again], isHost_writeIpv6 gs⟩
  · split at read
    · cases read
    · rename_i no_bracket no_sign
      cases read
      have signs : ∀ c ∈ cs, isHostDelimiter c = false := by simpa using no_sign
      have free : ∀ c ∈ encode inControls cs, isHostDelimiter c = false ∧ ' ' < c := by
        refine forall_mem_encode (fun c source free => ⟨signs c source, printed_of_not_control free ?_⟩)
          (Text.forall_chars (by decide))
        rintro rfl
        exact absurd (signs ' ' source) (by decide)
      have delimiters : ∀ c ∈ hostSigns, isHostDelimiter c = true := Text.forall_chars (by decide)
      have no_bracket : (encode inControls cs).head? ≠ some '[' := by
        intro bracket
        exact absurd (free '[' (List.mem_of_head? bracket)).1 (by decide)
      have no_sign : ¬(encode inControls cs).any isHostDelimiter = true := by
        simpa using fun c member => (free c member).1
      rw [String.toList_ofList]
      refine ⟨?_, .name fun c member => ⟨(free c member).2, fun sign => ?_⟩⟩
      · rw [readOpaqueHost, if_neg no_bracket, if_neg no_sign, encode_idempotent (Text.forall_chars (by decide))]
      · exact absurd (delimiters c sign) (by simp [(free c member).1])

end Signs

end Harvest.Url
