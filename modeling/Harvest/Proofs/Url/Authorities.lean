import Harvest.Proofs.Url.Hosts
import Harvest.Proofs.Url.Sound

/-!
Authorities that are read again. User, host and port are found again in what is written of them, whatever path, query
or fragment follows; so the authority is read again if and only if its host is.
-/

namespace Harvest.Url

variable {scheme : String} {family : Family} {cs name tail : List Char} {a : Authority} {host : String}

/-- The characters that end an authority. -/
def authorityEnds : List Char := ['/', '\\', '?', '#']

/-- What may follow an authority: a path, a query, a fragment or nothing. -/
def Follows (tail : List Char) : Prop := ∀ c ∈ tail.head?, c ∈ ['/', '?', '#']

/-- The host of an authority, read by the kind of its scheme. -/
def readHost (scheme : String) (cs : List Char) : Except Error String :=
  if (Family.ofScheme scheme).isSpecial then if cs.isEmpty then .error .emptyHost else readDomainHost cs
  else readOpaqueHost cs

/-- The port behind a host. -/
def readPlace (scheme host : String) (cs : List Char) : Except Error (Option Nat × List Char) :=
  match cs with
  | ':' :: rest => if host.isEmpty then .error .emptyHost else readPort scheme rest
  | _ => .ok (none, cs)

def portText (port : Option Nat) : List Char :=
  match port with
  | none => []
  | some p => ':' :: Nat.toDigits 10 p

theorem toList_write (a : Authority) : a.write.toList =
    (if a.userinfo.isEmpty then [] else a.userinfo.toList ++ ['@']) ++ a.host.toList ++ portText a.port := by
  obtain ⟨userinfo, host, port⟩ := a
  cases port <;> simp only [Authority.write, portText] <;> split <;>
    simp [String.toList_append, toString, Nat.toList_repr]

section Ends

theorem endsAuthority_eq_false {c : Char} (inside : c ∉ authorityEnds) : endsAuthority family c = false := by
  simp only [authorityEnds, List.mem_cons, List.not_mem_nil, or_false, not_or] at inside
  simp [endsAuthority, endsSegment, inside]

theorem Follows.ends (follows : Follows tail) : ∀ c ∈ tail.head?, endsAuthority family c = true := by
  have ends : ∀ c ∈ ['/', '?', '#'], endsAuthority family c = true := by simp [endsAuthority, endsSegment]
  exact fun c first => ends c (follows c first)

theorem takeWhile_append_follows {p : Char → Bool} (inside : ∀ c ∈ cs, p c = true)
    (ends : ∀ c ∈ tail.head?, p c = false) : (cs ++ tail).takeWhile p = cs := by
  rw [List.takeWhile_append_of_pos inside]
  cases tail with
  | nil => rw [List.takeWhile_nil, List.append_nil]
  | cons c rest => rw [List.takeWhile_cons_of_neg (by simp [ends c rfl]), List.append_nil]

theorem zone_append (inside : ∀ c ∈ cs, c ∉ authorityEnds) (follows : Follows tail) :
    (cs ++ tail).takeWhile (!endsAuthority family ·) = cs := by
  refine takeWhile_append_follows (fun c member => ?_) fun c first => ?_
  · rw [endsAuthority_eq_false (inside c member), Bool.not_false]
  · rw [follows.ends c first, Bool.not_true]

end Ends

section Users

theorem chars_writeUserinfo (cs : List Char) : ∀ c ∈ (writeUserinfo cs).toList, ' ' < c ∧ c ∉ authorityEnds := by
  have codes : ∀ c ∈ codeChars, ' ' < c ∧ c ∉ authorityEnds := Text.forall_chars (by decide)
  have encoded : ∀ c ∈ authorityEnds, inUserinfo c = true := Text.forall_chars (by decide)
  have part (cs : List Char) : ∀ c ∈ Url.encode inUserinfo cs, ' ' < c ∧ c ∉ authorityEnds := by
    refine forall_mem_encode (fun c _ free => ⟨printed_of_inUserinfo free, fun ends => ?_⟩) codes
    rw [encoded c ends] at free
    cases free
  rw [writeUserinfo, String.toList_ofList]
  intro c member
  rcases List.mem_append.1 member with user | password
  · exact part _ c user
  · split at password
    · cases password
    · rcases List.mem_cons.1 password with rfl | password
      · decide
      · exact part _ c password

theorem chars_of_readUserinfo {userinfo : String} {more : List Char}
    (read : readUserinfo family cs = .ok (userinfo, more)) : ∀ c ∈ userinfo.toList, ' ' < c ∧ c ∉ authorityEnds := by
  have nobody : ∀ c ∈ "".toList, ' ' < c ∧ c ∉ authorityEnds := by simp
  simp only [readUserinfo] at read
  split at read
  · cases read
    exact nobody
  · split at read
    · cases read
    · cases read
      exact nobody
  · cases read
    exact chars_writeUserinfo _

theorem cutLastAt_of_absent (absent : '@' ∉ cs) : cutLastAt cs = none := by
  rw [cutLastAt, if_neg (by simpa using absent)]

theorem cutLastAt_append (user : List Char) (absent : '@' ∉ cs) : cutLastAt (user ++ '@' :: cs) = some (user, cs) := by
  have after : ((user ++ '@' :: cs).reverse.takeWhile (· ≠ '@')).reverse = cs := by
    have reversed : (user ++ '@' :: cs).reverse = cs.reverse ++ '@' :: user.reverse := by simp
    rw [reversed, takeWhile_append_follows, List.reverse_reverse]
    · intro c member
      have other : c ≠ '@' := fun same => absent (same ▸ List.mem_reverse.1 member)
      simpa using other
    · rintro c ⟨⟩
      rfl
  have present : (user ++ '@' :: cs).contains '@' = true := by simp
  have before : (user ++ '@' :: cs).take ((user ++ '@' :: cs).length - cs.length - 1) = user := by
    have length : (user ++ '@' :: cs).length - cs.length - 1 = user.length := by
      rw [List.length_append, List.length_cons]
      omega
    rw [length, List.take_left]
  simp only [cutLastAt, if_pos present, after, before]

/-- A user is found again before the last at sign. -/
theorem readUserinfo_again (family : Family) {userinfo : String} (user : ∀ c ∈ userinfo.toList, c ∉ authorityEnds)
    (inside : ∀ c ∈ cs, c ∉ authorityEnds) (absent : '@' ∉ cs) (follows : Follows tail) : ∃ found,
      readUserinfo family ((if userinfo.isEmpty then [] else userinfo.toList ++ ['@']) ++ cs ++ tail) =
        .ok (found, cs ++ tail) ∧ (userinfo.isEmpty → found.isEmpty) := by
  by_cases nobody : userinfo.isEmpty = true
  · refine ⟨"", ?_, fun _ => rfl⟩
    have zone : (cs ++ tail).takeWhile (!endsAuthority family ·) = cs := zone_append inside follows
    simp only [if_pos nobody, List.nil_append, readUserinfo, zone, cutLastAt_of_absent absent]
  · have text : userinfo.toList ++ ['@'] ++ cs ++ tail = userinfo.toList ++ '@' :: cs ++ tail := by simp
    have zone : (userinfo.toList ++ '@' :: cs ++ tail).takeWhile (!endsAuthority family ·) =
        userinfo.toList ++ '@' :: cs := by
      refine zone_append (fun c member => ?_) follows
      rcases List.mem_append.1 member with here | member
      · exact user c here
      · rcases List.mem_cons.1 member with rfl | later
        · decide
        · exact inside c later
    obtain ⟨c, more, starts⟩ : ∃ c more, userinfo.toList = c :: more :=
      List.exists_cons_of_ne_nil (by simpa [String.isEmpty_iff] using nobody)
    refine ⟨writeUserinfo userinfo.toList, ?_, fun empty => absurd empty nobody⟩
    simp only [if_neg nobody, text, readUserinfo, zone, cutLastAt_append userinfo.toList absent, List.drop_left]
    simp only [starts]

end Users

section Ports

/-- The number of a port with one more digit. -/
def portStep (n : Nat) (c : Char) : Except Error Nat :=
  if n * 10 + (c.toNat - 48) > 65535 then .error .invalidPort else .ok (n * 10 + (c.toNat - 48))

theorem portStep_digitChar {n d : Nat} (digit : d < 10) (bound : n * 10 + d ≤ 65535) :
    portStep n (Nat.digitChar d) = .ok (n * 10 + d) := by
  rw [portStep, Nat.toNat_digitChar_sub_48_of_lt_ten digit, if_neg (Nat.not_lt.2 bound)]

theorem foldlM_portStep {p : Nat} (bound : p ≤ 65535) : (Nat.toDigits 10 p).foldlM portStep 0 = .ok p := by
  induction p using Nat.strongRecOn with
  | ind p ih =>
    rcases Nat.lt_or_ge p 10 with small | more
    · rw [Nat.toDigits_of_lt_base small, List.foldlM_cons, portStep_digitChar small (by omega), Nat.zero_mul,
        Nat.zero_add]
      rfl
    · have front := ih (p / 10) (by omega) (by omega)
      have last := portStep_digitChar (n := p / 10) (Nat.mod_lt p (by decide : 0 < 10)) (by omega)
      rw [Nat.toDigits_of_base_le (by decide) more, List.foldlM_append, front]
      simp only [bind, Except.bind, List.foldlM_cons, last]
      rw [Nat.div_add_mod']
      rfl

theorem readPort_again {p : Nat} (bound : p ≤ 65535) (follows : Follows tail) :
    ∃ port, readPort scheme (Nat.toDigits 10 p ++ tail) = .ok (port, tail) := by
  have digits : (Nat.toDigits 10 p ++ tail).takeWhile Char.isDigit = Nat.toDigits 10 p := by
    refine takeWhile_append_follows (fun c member => ?_) fun c first => ?_
    · exact Nat.isDigit_of_mem_toDigits (by decide) (by decide) member
    · have none : ∀ c ∈ ['/', '?', '#'], c.isDigit = false := Text.forall_chars (by decide)
      exact none c (follows c first)
  simp only [readPort, digits, List.drop_left]
  refine ⟨if (Nat.toDigits 10 p).isEmpty ∨ defaultPort scheme = some p then none else some p,
    bind_eq_ok.2 ⟨p, foldlM_portStep bound, ?_⟩⟩
  cases tail with
  | nil => rfl
  | cons c tail =>
    have slashes : ∀ c ∈ ['/', '?', '#'], isSlash c = true ∨ c = '?' ∨ c = '#' := Text.forall_chars (by decide)
    have ends := slashes c (follows c rfl)
    simp only [ends, not_true, if_false]
    rfl

theorem foldlM_portStep_le {n m : Nat} (le : n ≤ 65535) (read : cs.foldlM portStep n = .ok m) : m ≤ 65535 := by
  induction cs generalizing n with
  | nil =>
    cases read
    exact le
  | cons c cs ih =>
    obtain ⟨k, step, read⟩ := bind_eq_ok.1 read
    unfold portStep at step
    split at step
    · cases step
    · rename_i within
      cases step
      exact ih (Nat.not_lt.1 within) read

theorem readPort_le {port : Option Nat} {more : List Char} (read : readPort scheme cs = .ok (port, more)) :
    ∀ p ∈ port, p ≤ 65535 := by
  obtain ⟨n, digits, read⟩ := bind_eq_ok.1 read
  have le : n ≤ 65535 := foldlM_portStep_le (by decide) digits
  have result : port = if (cs.takeWhile Char.isDigit).isEmpty ∨ defaultPort scheme = some n then none else some n := by
    dsimp only at read
    split at read
    · split at read
      · cases read
      · cases read
        rfl
    · cases read
      rfl
  intro p member
  rw [result] at member
  split at member
  · cases member
  · cases member
    exact le

end Ports

section Places

theorem IsHost.chars (isHost : IsHost name) : ∀ c ∈ name, ' ' < c ∧ c ∉ authorityEnds ∧ c ≠ '@' := by
  cases isHost with
  | name free =>
    have signs : ∀ c ∈ '@' :: authorityEnds, c ∈ hostSigns := Text.forall_chars (by decide)
    intro c member
    refine ⟨(free c member).1, fun ends => (free c member).2 ?_, ?_⟩
    · exact signs c (List.mem_cons_of_mem _ ends)
    · rintro rfl
      exact (free '@' member).2 (signs '@' List.mem_cons_self)
  | address free =>
    have all : ∀ c ∈ '[' :: ']' :: ':' :: hexDigits, ' ' < c ∧ c ∉ authorityEnds ∧ c ≠ '@' :=
      Text.forall_chars (by decide)
    intro c member
    refine all c ?_
    simp only [List.mem_cons, List.mem_append, List.not_mem_nil, or_false] at member ⊢
    rcases member with open_bracket | inside | close_bracket
    · exact .inl open_bracket
    · exact .inr (.inr (free c inside))
    · exact .inr (.inl close_bracket)

/-- A host ends before a colon and where its authority ends. -/
theorem hostChars_of_ends (ends : ∀ c ∈ tail.head?, c = ':' ∨ endsAuthority family c = true) :
    hostChars family false tail = [] := by
  cases tail with
  | nil => rfl
  | cons c tail =>
    have stop : ((c = ':' && !false) || endsAuthority family c) = true := by simpa using ends c rfl
    rw [hostChars, if_pos stop]

theorem hostChars_name (free : ∀ c ∈ name, c ∉ hostSigns)
    (ends : ∀ c ∈ tail.head?, c = ':' ∨ endsAuthority family c = true) :
    hostChars family false (name ++ tail) = name := by
  induction name with
  | nil => exact hostChars_of_ends ends
  | cons c name ih =>
    have here := free c List.mem_cons_self
    have later := ih fun d member => free d (List.mem_cons_of_mem c member)
    have signs : ∀ c ∈ authorityEnds, c ∈ hostSigns := Text.forall_chars (by decide)
    have inside : endsAuthority family c = false := endsAuthority_eq_false fun found => here (signs c found)
    have no_colon : c ≠ ':' := fun same => here (same ▸ by decide)
    have no_bracket : c ≠ '[' := fun same => here (same ▸ by decide)
    simp only [List.cons_append, hostChars, inside, no_colon, no_bracket, decide_false, Bool.false_and, Bool.or_false,
      Bool.false_eq_true, if_false, later]

theorem hostChars_address (free : ∀ c ∈ cs, c = ':' ∨ c ∈ hexDigits)
    (ends : ∀ c ∈ tail.head?, c = ':' ∨ endsAuthority family c = true) :
    hostChars family true (cs ++ ']' :: tail) = cs ++ [']'] := by
  induction cs with
  | nil =>
    have inside : endsAuthority family ']' = false := endsAuthority_eq_false (by decide)
    have stop := hostChars_of_ends ends
    simp [hostChars, inside, stop]
  | cons c cs ih =>
    have all : ∀ c ∈ ':' :: hexDigits, c ∉ authorityEnds ∧ c ≠ '[' ∧ c ≠ ']' := Text.forall_chars (by decide)
    obtain ⟨inside, no_open, no_close⟩ := all c (List.mem_cons.2 (free c List.mem_cons_self))
    have later := ih fun d member => free d (List.mem_cons_of_mem c member)
    have goes_on : endsAuthority family c = false := endsAuthority_eq_false inside
    simp [hostChars, goes_on, no_open, no_close, later]

theorem IsHost.hostChars_append (isHost : IsHost name)
    (ends : ∀ c ∈ tail.head?, c = ':' ∨ endsAuthority family c = true) :
    hostChars family false (name ++ tail) = name := by
  cases isHost with
  | name free => exact hostChars_name (fun c member => (free c member).2) ends
  | address free =>
    have inside : endsAuthority family '[' = false := endsAuthority_eq_false (by decide)
    have address := hostChars_address free ends
    simp [hostChars, inside, address]

theorem readHostAndPort_eq (scheme : String) (cs : List Char) : readHostAndPort scheme cs =
    (readHost scheme (hostChars (Family.ofScheme scheme) false cs) >>= fun host =>
      readPlace scheme host (cs.drop (hostChars (Family.ofScheme scheme) false cs).length) >>= fun place =>
        pure (host, place.1, place.2)) := by
  simp only [readHostAndPort, readHost]
  generalize hostChars (Family.ofScheme scheme) false cs = name
  generalize cs.drop name.length = rest
  have behind (host : String) : (match rest with
      | ':' :: rest =>
        if host.isEmpty then (do throw .emptyHost; let place ← readPort scheme rest; pure (host, place.1, place.2))
        else (do let place ← readPort scheme rest; pure (host, place.1, place.2))
      | _ => pure (host, none, rest) : Except Error (String × Option Nat × List Char)) =
      (readPlace scheme host rest >>= fun place => pure (host, place.1, place.2)) := by
    unfold readPlace
    split
    · split <;> rfl
    · rfl
  split
  · split
    · rfl
    · exact bind_congr behind
  · exact bind_congr behind

theorem readHostAndPort_eq_ok {port : Option Nat} {more : List Char} :
    readHostAndPort scheme cs = .ok (host, port, more) ↔
      readHost scheme (hostChars (Family.ofScheme scheme) false cs) = .ok host ∧
        readPlace scheme host (cs.drop (hostChars (Family.ofScheme scheme) false cs).length) = .ok (port, more) := by
  rw [readHostAndPort_eq]
  constructor
  · intro read
    obtain ⟨_, found, read⟩ := bind_eq_ok.1 read
    obtain ⟨_, place, read⟩ := bind_eq_ok.1 read
    cases read
    exact ⟨found, place⟩
  · rintro ⟨found, place⟩
    exact bind_eq_ok.2 ⟨host, found, bind_eq_ok.2 ⟨(port, more), place, rfl⟩⟩

/-- The host of a special scheme whose characters make a domain in ASCII without marked labels. -/
theorem readHostAndPort_domain (special : (Family.ofScheme scheme).isSpecial = true)
    (chars : hostChars (Family.ofScheme scheme) false cs = name) (plain : IsPlain name) (nonempty : name ≠ [])
    (unmarked : IsUnmarked (name.map Char.toLower)) (named : endsInNumber (name.map Char.toLower) = false)
    {port : Option Nat} {more : List Char}
    (place : readPlace scheme (String.ofList (name.map Char.toLower)) (cs.drop name.length) = .ok (port, more)) :
    readHostAndPort scheme cs = .ok (String.ofList (name.map Char.toLower), port, more) := by
  rw [readHostAndPort_eq_ok, chars]
  refine ⟨?_, place⟩
  rw [readHost, if_pos special, if_neg (by simpa using nonempty), readDomainHost_plain plain unmarked nonempty, named]
  rfl

theorem readPlace_port {port : Option Nat} {more : List Char} (read : readPlace scheme host cs = .ok (port, more)) :
    ∀ p ∈ port, p ≤ 65535 ∧ host ≠ "" := by
  unfold readPlace at read
  split at read
  · split at read
    · cases read
    · rename_i present
      exact fun p member => ⟨readPort_le read p member, by simpa [String.isEmpty_iff] using present⟩
  · cases read
    exact nofun

theorem readHost_ok {name : List Char} (read : readHost scheme name = .ok host) : IsHost host.toList := by
  unfold readHost at read
  split at read
  · split at read
    · cases read
    · exact (domainHost_of_read read).isHost
  · exact (readOpaqueHost_again read).2

/-- No host is lost when it is read again. -/
theorem readHost_again_empty {found : String} (read : readHost scheme cs = .ok host)
    (again : readHost scheme host.toList = .ok found) (empty : found = "") : host = "" := by
  unfold readHost at read again
  by_cases special : (Family.ofScheme scheme).isSpecial = true
  · rw [if_pos special] at again
    split at again
    · cases again
    · exact absurd empty (domainHost_of_read again).ne_empty
  · rw [if_neg special] at read again
    rw [(readOpaqueHost_again read).1] at again
    cases again
    exact empty

theorem readPlace_again (scheme : String) {port : Option Nat} (bound : ∀ p ∈ port, p ≤ 65535 ∧ host ≠ "")
    (follows : Follows tail) : ∃ other, readPlace scheme host (portText port ++ tail) = .ok (other, tail) := by
  cases port with
  | none =>
    refine ⟨none, ?_⟩
    rw [portText, List.nil_append, readPlace]
    rintro rest rfl
    exact absurd (follows ':' rfl) (by decide)
  | some p =>
    obtain ⟨le, present⟩ := bound p rfl
    rw [portText, List.cons_append, readPlace, if_neg (by simpa [String.isEmpty_iff] using present)]
    exact readPort_again le follows

/-- In front of whatever may follow a host and its port, the characters of the host are read as a host. -/
theorem readHostAndPort_append (scheme : String) (port : Option Nat) (isHost : IsHost name) (follows : Follows tail) :
    readHostAndPort scheme (name ++ portText port ++ tail) = (readHost scheme name >>= fun host =>
      readPlace scheme host (portText port ++ tail) >>= fun place => pure (host, place.1, place.2)) := by
  have ends : ∀ c ∈ (portText port ++ tail).head?, c = ':' ∨ endsAuthority (Family.ofScheme scheme) c = true := by
    cases port with
    | none => exact fun c first => .inr (follows.ends c first)
    | some p => exact fun c first => .inl (Option.some.inj first).symm
  rw [readHostAndPort_eq, List.append_assoc, isHost.hostChars_append ends, List.drop_left]

end Places

section Whole

theorem chars_portText (port : Option Nat) : ∀ c ∈ portText port, ' ' < c ∧ c ∉ authorityEnds ∧ c ≠ '@' := by
  have all : ∀ c : Char, c.toNat < 128 → c.isDigit = true → ' ' < c ∧ c ∉ authorityEnds ∧ c ≠ '@' :=
    Text.forall_ascii (by decide)
  cases port with
  | none => exact nofun
  | some p =>
    intro c member
    rcases List.mem_cons.1 member with rfl | digit
    · decide
    · have isDigit := Nat.isDigit_of_mem_toDigits (by decide) (by decide) digit
      exact all c (digit_plain isDigit).1.1 isDigit

/-- An authority is read again if and only if its host is. -/
theorem afterSlashes_again (known : a.Known scheme) (follows : Follows tail) :
    (∃ u, afterSlashes scheme (a.write.toList ++ tail) = .ok u) ↔
      ∃ found, readHost scheme a.host.toList = .ok found := by
  obtain ⟨_, _, user⟩ := known.user
  obtain ⟨_, _, place⟩ := known.place
  obtain ⟨host, place⟩ := readHostAndPort_eq_ok.1 place
  have isHost := readHost_ok host
  have inside : ∀ c ∈ a.host.toList ++ portText a.port, c ∉ authorityEnds ∧ c ≠ '@' := by
    intro c member
    rcases List.mem_append.1 member with name | port
    · exact (isHost.chars c name).2
    · exact (chars_portText a.port c port).2
  obtain ⟨userinfo, again, nobody⟩ := readUserinfo_again (Family.ofScheme scheme)
    (fun c member => (chars_of_readUserinfo user c member).2) (fun c member => (inside c member).1)
    (fun sign => (inside '@' sign).2 rfl) follows
  have text := readHostAndPort_append scheme a.port isHost follows
  rw [toList_write, List.append_assoc _ a.host.toList]
  constructor
  · rintro ⟨u, read⟩
    obtain ⟨_, _, found, port, _, first, second, _⟩ := afterSlashes_eq_ok.1 read
    rw [again] at first
    cases first
    rw [text] at second
    obtain ⟨found, read, _⟩ := bind_eq_ok.1 second
    exact ⟨found, read⟩
  · rintro ⟨found, read⟩
    have kept := readHost_again_empty host read
    have bound : ∀ p ∈ a.port, p ≤ 65535 ∧ found ≠ "" :=
      fun p member => ⟨(readPlace_port place p member).1, fun empty => (readPlace_port place p member).2 (kept empty)⟩
    obtain ⟨port, more⟩ := readPlace_again scheme bound follows
    refine ⟨_, afterSlashes_eq_ok.2 ⟨userinfo, _, found, port, tail, again, ?_, ?_, rfl⟩⟩
    · rw [text]
      exact bind_eq_ok.2 ⟨found, read, bind_eq_ok.2 ⟨_, more, rfl⟩⟩
    · rintro ⟨empty, somebody⟩
      have no_host := kept (String.isEmpty_iff.1 empty)
      refine known.owned ⟨String.isEmpty_iff.2 no_host, fun no_user => somebody (nobody no_user)⟩

end Whole

end Harvest.Url
